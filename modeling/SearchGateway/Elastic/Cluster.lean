import SearchGateway.Json.Basic

/-!
# What the gateway says about itself

Clients ask for these documents before their first real request and go on only if the product and
the version are what they expect.
-/

namespace SearchGateway.Elastic

def buildVersion : String := "0.3.0"

/-- The header that tells clients which product they talk to. -/
def productHeader : String := "x-elastic-product"

def productName : String := "Elasticsearch"

/-- The cluster that the gateway presents itself as. -/
structure Cluster where
  nodeName : String := "sift"
  clusterName : String := "sift"
  clusterUuid : String := "sift-es-compat"
  versionNumber : String := "8.1.0"
  buildVersion : String := Elastic.buildVersion
deriving DecidableEq, Repr, Inhabited

namespace Cluster

def toJson (c : Cluster) : Json :=
  .object [
    ("node_name", .string c.nodeName),
    ("cluster_name", .string c.clusterName),
    ("cluster_uuid", .string c.clusterUuid),
    ("version_number", .string c.versionNumber),
    ("build_version", .string c.buildVersion)]

/-- The document at the root of the dialect. -/
def rootInfo (c : Cluster) : Json :=
  .object [
    ("name", .string c.nodeName),
    ("cluster_name", .string c.clusterName),
    ("cluster_uuid", .string c.clusterUuid),
    ("version", .object [
      ("number", .string c.versionNumber),
      ("build_flavor", .string "default"),
      ("build_type", .string "sift"),
      ("build_hash", .string c.buildVersion),
      ("build_date", .string "2023-01-01T00:00:00.000000Z"),
      ("build_snapshot", .bool false),
      ("lucene_version", .string "9.0.0"),
      ("minimum_wire_compatibility_version", .string "7.17.0"),
      ("minimum_index_compatibility_version", .string "7.0.0")]),
    ("tagline", .string "You Know, for Search")]

def license (c : Cluster) : Json :=
  .object [("license", .object [
    ("status", .string "active"),
    ("uid", .string c.clusterUuid),
    ("type", .string "basic"),
    ("issue_date", .string "2023-01-01T00:00:00.000Z"),
    ("issue_date_in_millis", .int 1672531200000),
    ("max_nodes", .int 1000),
    ("issued_to", .string c.clusterName),
    ("issuer", .string "elasticsearch"),
    ("start_date_in_millis", .int (-1))])]

def feature (available : Bool) : Json :=
  .object [("available", .bool available), ("enabled", .bool available)]

def features (c : Cluster) : Json :=
  .object [
    ("build", .object [
      ("date", .string "2023-01-01T00:00:00.000000Z"),
      ("hash", .string c.buildVersion)]),
    ("features", .object [
      ("data_streams", feature true),
      ("graph", feature false),
      ("ilm", feature false),
      ("ml", feature false),
      ("monitoring", feature false),
      ("security", feature true),
      ("sql", feature false),
      ("watcher", feature false)]),
    ("license", .object [
      ("mode", .string "basic"),
      ("status", .string "active"),
      ("type", .string "basic"),
      ("uid", .string c.clusterUuid)]),
    ("tagline", .string "You know, for X")]

end Cluster

end SearchGateway.Elastic
