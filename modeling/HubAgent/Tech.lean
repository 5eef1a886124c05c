import HubAgent.Lib.StrParts
import HubAgent.Dependencies
/-!
# Technology detection from an image (`tech.rs`)

The registry, then the digest or the tag are cut off, and the last segment of what is left is looked up in a table.  Only
`detect` is here; the readings of processes and labels are other sources of a `Technology`.
-/
namespace HubAgent
namespace Tech

open Collector (Casing)

/-- What is told of a container (`model.rs`). -/
structure Technology where
  vendor : Option String
  product : Option String
  version : Option String
  language : Option String
  source : String
  subtype : Option String
deriving DecidableEq, Repr

def stripRegistry (image : List Char) : List Char :=
  match RustStr.splitOnce '/' image with
  | some (head, rest) => if '.' ∈ head ∨ ':' ∈ head ∨ head = "localhost".toList then rest else image
  | none => image

/-- A digest goes with all behind the first `@`; the tag in front of it stays where it is. -/
def splitTag (repoWithTag : List Char) : List Char × Option (List Char) :=
  match RustStr.splitOnce '@' repoWithTag with
  | some (repo, _) => (repo, none)
  | none =>
    match RustStr.rsplitOnceStr [':'] repoWithTag with
    | some (repo, tag) => if '/' ∈ tag then (repoWithTag, none) else (repo, some tag)
    | none => (repoWithTag, none)

def versionSuffixes : List String :=
  ["-alpine", "-slim", "-jre", "-jdk", "-bullseye", "-bookworm", "-distroless", "-ubi", "-ubi8", "-ubi9"]

/-- Each suffix is tried once, in the order of the table. -/
def normalizeVersion (tag : List Char) : List Char :=
  versionSuffixes.foldl (fun v suffix => (RustStr.stripSuffix suffix.toList v).getD v) (tag.dropWhile (· == 'v'))

structure Rule where
  vendor : String
  product : String
  language : String
  names : List String
  prefixes : List String

def Rule.matches (rule : Rule) (name : String) : Bool :=
  rule.names.contains name || rule.prefixes.any (fun p => p.toList.isPrefixOf name.toList)

def rules : List Rule :=
  [
    -- Web / proxy
    ⟨"nginx", "nginx", "C", ["nginx", "nginx-unprivileged"], []⟩,
    ⟨"apache", "httpd", "C", ["httpd"], []⟩,
    ⟨"haproxy", "haproxy", "C", ["haproxy"], []⟩,
    ⟨"envoy", "envoy", "C++", ["envoy"], []⟩,
    ⟨"traefik", "traefik", "Go", ["traefik"], []⟩,
    ⟨"caddy", "caddy", "Go", ["caddy"], []⟩,
    -- Databases
    ⟨"postgresql", "postgres", "C", ["postgres", "postgresql"], ["postgres-"]⟩,
    ⟨"mysql", "mysql", "C++", ["mysql"], []⟩,
    ⟨"mariadb", "mariadb", "C++", ["mariadb"], []⟩,
    ⟨"mongodb", "mongodb", "C++", ["mongo", "mongodb"], []⟩,
    ⟨"redis", "redis", "C", ["redis"], []⟩,
    ⟨"elastic", "elasticsearch", "Java", ["elasticsearch"], []⟩,
    ⟨"elastic", "kibana", "JavaScript", ["kibana"], []⟩,
    ⟨"influxdata", "influxdb", "Go", ["influxdb"], []⟩,
    ⟨"cockroachdb", "cockroachdb", "Go", ["cockroach"], []⟩,
    -- Messaging / streaming
    ⟨"rabbitmq", "rabbitmq", "Erlang", ["rabbitmq"], []⟩,
    ⟨"apache", "kafka", "Java", ["kafka"], ["cp-kafka", "confluent"]⟩,
    ⟨"nats", "nats", "Go", ["nats"], []⟩,
    ⟨"apache", "zookeeper", "Java", ["zookeeper"], []⟩,
    ⟨"memcached", "memcached", "C", ["memcached"], []⟩,
    ⟨"keycloak", "keycloak", "Java", ["keycloak"], []⟩,
    ⟨"hashicorp", "vault", "Go", ["vault"], []⟩,
    ⟨"hashicorp", "consul", "Go", ["consul"], []⟩,
    -- Runtimes / language base images
    ⟨"oracle", "java", "Java", ["openjdk"], ["eclipse-temurin", "amazoncorretto", "ibm-semeru-runtimes"]⟩,
    ⟨"nodejs", "node", "JavaScript", ["node"], []⟩,
    ⟨"python", "python", "Python", ["python"], []⟩,
    ⟨"golang", "go", "Go", ["golang"], []⟩,
    ⟨"rust-lang", "rust", "Rust", ["rust"], []⟩,
    ⟨"microsoft", "dotnet", "C#", [], ["dotnet"]⟩,
    ⟨"ruby", "ruby", "Ruby", ["ruby"], []⟩,
    ⟨"php", "php", "PHP", ["php"], []⟩,
    ⟨"busybox", "busybox", "C", ["busybox"], []⟩,
    ⟨"alpine", "alpine", "", ["alpine"], []⟩,
    ⟨"debian", "debian", "", ["debian"], []⟩,
    ⟨"ubuntu", "ubuntu", "", ["ubuntu"], []⟩,
    ⟨"distroless", "distroless", "", ["distroless"], []⟩,
    -- Observability
    ⟨"prometheus", "prometheus", "Go", ["prometheus"], []⟩,
    ⟨"grafana", "grafana", "Go", ["grafana"], []⟩,
    ⟨"grafana", "loki", "Go", ["loki"], []⟩,
    ⟨"grafana", "promtail", "Go", ["promtail"], []⟩,
    ⟨"opentelemetry", "otel-collector", "Go", ["otelcol", "opentelemetry-collector"], []⟩,
    ⟨"elastic", "logstash", "Java", ["logstash"], []⟩,
    ⟨"fluent", "fluentd", "Ruby", ["fluentd"], []⟩,
    ⟨"fluent", "fluent-bit", "C", ["fluent-bit"], []⟩,
    -- Kubernetes / OpenShift control plane and components
    ⟨"kubernetes", "kube-apiserver", "Go", ["kube-apiserver"], []⟩,
    ⟨"kubernetes", "kube-controller-manager", "Go", ["kube-controller-manager"], []⟩,
    ⟨"kubernetes", "kube-scheduler", "Go", ["kube-scheduler"], []⟩,
    ⟨"kubernetes", "kube-proxy", "Go", ["kube-proxy"], []⟩,
    ⟨"kubernetes", "coredns", "Go", ["coredns"], []⟩,
    ⟨"kubernetes", "etcd", "Go", ["etcd"], []⟩,
    ⟨"openshift", "ose", "Go", [], ["ose-"]⟩,
    -- Sidecars common in service mesh
    ⟨"istio", "istio-proxy", "C++", ["proxyv2"], []⟩,
    ⟨"linkerd", "linkerd-proxy", "Rust", ["proxy"], ["linkerd2-proxy"]⟩,
    ⟨"jaeger", "jaeger-agent", "Go", ["jaeger-agent"], []⟩,
    ⟨"jaeger", "jaeger-collector", "Go", ["jaeger-collector"], []⟩,
    ⟨"jaeger", "jaeger-query", "Go", ["jaeger-query"], []⟩]

def isDistroless (repoLower : List Char) : Bool :=
  "distroless/".toList.isPrefixOf repoLower || decide ("/distroless/".toList <:+: repoLower)

def detect (casing : Casing) (image : String) : Technology :=
  let afterRegistry := stripRegistry image.toList
  let (repo, tag) := splitTag afterRegistry
  let version := tag.map (fun tag => String.ofList (normalizeVersion tag))
  let repoLower := casing.toLowercase (String.ofList repo)
  if isDistroless repoLower.toList then
    { vendor := some "distroless", product := some "distroless", version := version, language := none
      source := "image", subtype := none }
  else
    let name := casing.toLowercase (String.ofList ((RustStr.split '/' repo).getLast?.getD repo))
    match rules.find? (fun rule => rule.matches name) with
    | some rule =>
      { vendor := some rule.vendor, product := some rule.product, version := version
        language := if rule.language = "" then none else some rule.language
        source := "image", subtype := if rule.product = "postgres" then some "postgresql" else none }
    -- the name stands for the product, so that there is something to group by
    | none =>
      { vendor := none, product := some name, version := version, language := none
        source := "image", subtype := none }

end Tech
end HubAgent
