import DeviceTwin.Registry.JsonForm

/-!
Automatic configurations: content that the service applies to all devices that a query selects.
-/
namespace DeviceTwin.Registry

/-- What a configuration applies, under the paths of properties or the names of modules. -/
structure ConfigurationContent where
  deviceContent : Option (OrderedMap Json)
  modulesContent : Option (OrderedMap Json)
  moduleContent : Option (OrderedMap Json)

instance : JsonForm ConfigurationContent where
  schema := .record "ConfigurationContent"
    [possible (OrderedMap Json) "deviceContent", possible (OrderedMap Json) "modulesContent",
     possible (OrderedMap Json) "moduleContent"]
  toJson c := .obj <|
    field? "deviceContent" c.deviceContent ++ field? "modulesContent" c.modulesContent ++
    field? "moduleContent" c.moduleContent
  ofJson j := ⟨valueOf? "deviceContent" j, valueOf? "modulesContent" j, valueOf? "moduleContent" j⟩

def ConfigurationContent.empty : ConfigurationContent := ⟨none, none, none⟩

/-- Queries and what they last counted, under the names of the metrics. -/
structure ConfigurationMetrics where
  results : OrderedMap Int64
  queries : OrderedMap String

instance : JsonForm ConfigurationMetrics where
  schema := .record "ConfigurationMetrics"
    [orDefault "results" (OrderedMap.empty : OrderedMap Int64),
     orDefault "queries" (OrderedMap.empty : OrderedMap String)]
  toJson m := .obj (field "results" m.results ++ field "queries" m.queries)
  ofJson j := ⟨valueOf "results" j, valueOf "queries" j⟩

structure Configuration where
  id : String
  schemaVersion : String
  labels : OrderedMap String
  content : ConfigurationContent
  /-- The query that selects the devices. -/
  targetCondition : String
  createdTimeUtc : Option String
  lastUpdatedTimeUtc : Option String
  /-- Of two configurations the one of higher priority is applied. -/
  priority : Int32
  systemMetrics : Option ConfigurationMetrics
  metrics : Option ConfigurationMetrics
  etag : Option String

instance : JsonForm Configuration where
  schema := .record "Configuration"
    [needed String "id", needed String "schemaVersion",
     orDefault "labels" (OrderedMap.empty : OrderedMap String), orDefault "content" ConfigurationContent.empty,
     orDefault "targetCondition" "", possible String "createdTimeUtc", possible String "lastUpdatedTimeUtc",
     orDefault "priority" (0 : Int32), possible ConfigurationMetrics "systemMetrics",
     possible ConfigurationMetrics "metrics", possible String "etag"]
  toJson c := .obj <|
    field "id" c.id ++ field "schemaVersion" c.schemaVersion ++ field "labels" c.labels ++
    field "content" c.content ++ field "targetCondition" c.targetCondition ++
    field? "createdTimeUtc" c.createdTimeUtc ++ field? "lastUpdatedTimeUtc" c.lastUpdatedTimeUtc ++
    field "priority" c.priority ++ field? "systemMetrics" c.systemMetrics ++ field? "metrics" c.metrics ++
    field? "etag" c.etag
  ofJson j := {
    id := valueOf "id" j
    schemaVersion := valueOf "schemaVersion" j
    labels := valueOf "labels" j
    content := valueOf "content" j
    targetCondition := valueOf "targetCondition" j
    createdTimeUtc := valueOf? "createdTimeUtc" j
    lastUpdatedTimeUtc := valueOf? "lastUpdatedTimeUtc" j
    priority := valueOf "priority" j
    systemMetrics := valueOf? "systemMetrics" j
    metrics := valueOf? "metrics" j
    etag := valueOf? "etag" j }

namespace Configuration

/-- The version of the format of configurations. -/
def currentSchema : String := "1.0"

/-- A configuration that applies nothing. -/
def new (id : String) : Configuration where
  id := id
  schemaVersion := currentSchema
  labels := .empty
  content := .empty
  targetCondition := ""
  createdTimeUtc := none
  lastUpdatedTimeUtc := none
  priority := 0
  systemMetrics := none
  metrics := none
  etag := none

def withContent (c : Configuration) (content : ConfigurationContent) : Configuration := { c with content }
def withPriority (c : Configuration) (priority : Int32) : Configuration := { c with priority }
def withEtag (c : Configuration) (etag : String) : Configuration := { c with etag := some etag }

def withTargetCondition (c : Configuration) (targetCondition : String) : Configuration :=
  { c with targetCondition }

/-- Sets a label. -/
def withLabel (c : Configuration) (key value : String) : Configuration :=
  { c with labels := c.labels.insert key value }

end Configuration
end DeviceTwin.Registry
