import CommandMetrics.Config
import CommandMetrics.Series
/-!
# Log — the records that are written

Registering, wiring and configuring leave records; recording events never
does. A record is what happened; its level, its words and the logger that
writes it follow from that.
-/

namespace CommandMetrics

/-- Something that is written to the log. -/
inductive LogRecord where
  | environmentLoaded (config : Config)
  | setRegistered (series bounds : Nat)
  | setUnregistered
  | registrationFailed (metricName words : String)
  | factoryEnlisted (shown : String) (total : Nat)
  | endpointStarted (port : Int)
  | endpointFailed (port : Int) (words : String)
  deriving DecidableEq

/-- How grave a record is. -/
inductive LogLevel where
  | debug
  | info
  | error
  deriving DecidableEq, Repr

/-- The name of a level. -/
def LogLevel.name : LogLevel → String
  | debug => "DEBUG"
  | info => "INFO"
  | error => "ERROR"

namespace LogRecord

/-- How grave a record is. -/
def level : LogRecord → LogLevel
  | environmentLoaded _ | factoryEnlisted .. => .debug
  | setRegistered .. | setUnregistered | endpointStarted _ => .info
  | registrationFailed .. | endpointFailed .. => .error

/-- The logger that writes a record. -/
def logger : LogRecord → String
  | environmentLoaded _ => "hystrix_prometheus.models.model_metric_set_config"
  | setRegistered .. | setUnregistered | registrationFailed .. =>
    "hystrix_prometheus.observability.prometheus_metric_set"
  | factoryEnlisted .. => "hystrix_prometheus.collectors.collector_registry"
  | endpointStarted _ | endpointFailed .. => "hystrix_prometheus.runtime.wiring"

/-- The words of a record. -/
def message : LogRecord → String
  | environmentLoaded _ => "Loaded metrics configuration from environment"
  | setRegistered series bounds =>
    s!"Hystrix metric set registered ({series} series, {bounds} duration buckets)"
  | setUnregistered => "Hystrix metric set unregistered"
  | registrationFailed metricName words =>
    "Failed to register metric " ++ metricName ++ ": " ++ words
  | factoryEnlisted shown total =>
    "Registered metric collector factory " ++ shown ++ s!" ({total} total)"
  | endpointStarted port => s!"Prometheus metrics server started on port {port}"
  | endpointFailed port words => s!"Failed to start metrics server on port {port}: " ++ words

/-- The named values that go with a record. -/
def extra : LogRecord → Fields
  | environmentLoaded config => config.toFields
  | registrationFailed metricName _ => [("metric_name", .text metricName)]
  | _ => []

end LogRecord

end CommandMetrics
