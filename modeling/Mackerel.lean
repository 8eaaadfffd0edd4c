import Mackerel.Go.Basic
import Mackerel.Go.Json
import Mackerel.Go.Decode
import Mackerel.Haproxy.ParseStats
import Mackerel.Haproxy.FetchMetrics
import Mackerel.Elasticsearch.GetFloatValue
import Mackerel.Elasticsearch.FetchMetrics
import Mackerel.Elasticsearch.Extract
import Mackerel.Elasticsearch.GraphDefinition
import Mackerel.Elasticsearch.Body
import Mackerel.PhpFpm.Unmarshal
import Mackerel.PhpFpm.FetchMetrics
import Mackerel.Do
