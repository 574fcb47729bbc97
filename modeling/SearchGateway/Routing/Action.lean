/-!
# Actions of the handler

An action is what a route asks the handler to do. Several actions may need one permission.
-/

namespace SearchGateway.Routing

/-- What the handler can be asked to do. -/
inductive Action where
  | authLogin
  | authCreateUpdateUser
  | authDeleteUser
  | authListUser
  | authListPermissions
  | authListRole
  | authCreateUpdateRole
  | authDeleteRole
  | indexList
  | indexNameList
  | indexCreate
  | indexDelete
  | indexGet
  | indexExists
  | indexRefresh
  | indexGetMapping
  | indexSetMapping
  | indexGetSettings
  | indexSetSettings
  | indexAnalyze
  | indexListTemplate
  | indexCreateTemplate
  | indexGetTemplate
  | indexDeleteTemplate
  | indexCreateES
  | indexGetESMapping
  | indexAddOrRemoveESAlias
  | indexGetESAliases
  | searchV1
  | searchDSL
  | searchMultipleSearch
  | searchDeleteByQuery
  | documentBulk
  | documentBulkv2
  | documentESBulk
  | documentMulti
  | documentCreateUpdate
  | documentGet
  | documentUpdate
  | documentDelete
  | elasticPutDataStream
  | elasticGetDataStream
  | metaApiDocs
deriving DecidableEq, Repr

namespace Action

def token : Action → String
  | .authLogin => "auth.Login"
  | .authCreateUpdateUser => "auth.CreateUpdateUser"
  | .authDeleteUser => "auth.DeleteUser"
  | .authListUser => "auth.ListUser"
  | .authListPermissions => "auth.ListPermissions"
  | .authListRole => "auth.ListRole"
  | .authCreateUpdateRole => "auth.CreateUpdateRole"
  | .authDeleteRole => "auth.DeleteRole"
  | .indexList => "index.List"
  | .indexNameList => "index.IndexNameList"
  | .indexCreate => "index.Create"
  | .indexDelete => "index.Delete"
  | .indexGet => "index.Get"
  | .indexExists => "index.Exists"
  | .indexRefresh => "index.Refresh"
  | .indexGetMapping => "index.GetMapping"
  | .indexSetMapping => "index.SetMapping"
  | .indexGetSettings => "index.GetSettings"
  | .indexSetSettings => "index.SetSettings"
  | .indexAnalyze => "index.Analyze"
  | .indexListTemplate => "index.ListTemplate"
  | .indexCreateTemplate => "index.CreateTemplate"
  | .indexGetTemplate => "index.GetTemplate"
  | .indexDeleteTemplate => "index.DeleteTemplate"
  | .indexCreateES => "index.CreateES"
  | .indexGetESMapping => "index.GetESMapping"
  | .indexAddOrRemoveESAlias => "index.AddOrRemoveESAlias"
  | .indexGetESAliases => "index.GetESAliases"
  | .searchV1 => "search.SearchV1"
  | .searchDSL => "search.SearchDSL"
  | .searchMultipleSearch => "search.MultipleSearch"
  | .searchDeleteByQuery => "search.DeleteByQuery"
  | .documentBulk => "document.Bulk"
  | .documentBulkv2 => "document.Bulkv2"
  | .documentESBulk => "document.ESBulk"
  | .documentMulti => "document.Multi"
  | .documentCreateUpdate => "document.CreateUpdate"
  | .documentGet => "document.Get"
  | .documentUpdate => "document.Update"
  | .documentDelete => "document.Delete"
  | .elasticPutDataStream => "elastic.PutDataStream"
  | .elasticGetDataStream => "elastic.GetDataStream"
  | .metaApiDocs => "meta.ApiDocs"

def all : List Action := [
  .authLogin, .authCreateUpdateUser, .authDeleteUser, .authListUser, .authListPermissions,
  .authListRole, .authCreateUpdateRole, .authDeleteRole, .indexList, .indexNameList,
  .indexCreate, .indexDelete, .indexGet, .indexExists, .indexRefresh, .indexGetMapping,
  .indexSetMapping, .indexGetSettings, .indexSetSettings, .indexAnalyze, .indexListTemplate,
  .indexCreateTemplate, .indexGetTemplate, .indexDeleteTemplate, .indexCreateES,
  .indexGetESMapping, .indexAddOrRemoveESAlias, .indexGetESAliases, .searchV1, .searchDSL,
  .searchMultipleSearch, .searchDeleteByQuery, .documentBulk, .documentBulkv2, .documentESBulk,
  .documentMulti, .documentCreateUpdate, .documentGet, .documentUpdate, .documentDelete,
  .elasticPutDataStream, .elasticGetDataStream, .metaApiDocs]

theorem mem_all (x : Action) : x ∈ all := by
  cases x <;> decide

def ofToken? (token : String) : Option Action :=
  all.find? (·.token == token)

end Action

end SearchGateway.Routing
