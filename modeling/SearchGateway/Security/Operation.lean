/-!
# Protected operations

An operation is what a caller needs a permission for. Several routes may stand for one operation.
-/

namespace SearchGateway.Security

/-- An operation that a caller may be permitted to perform. -/
inductive Operation where
  | authCreateUpdateUser
  | authDeleteUser
  | authListUser
  | authListPermissions
  | authListRole
  | authCreateUpdateRole
  | authDeleteRole
  | indexList
  | indexNameList
  | indexCreate
  | indexDelete
  | indexGet
  | indexExists
  | indexRefresh
  | indexGetMapping
  | indexSetMapping
  | indexGetSettings
  | indexSetSettings
  | indexAnalyze
  | indexListTemplate
  | indexCreateTemplate
  | indexGetTemplate
  | indexDeleteTemplate
  | indexCreateES
  | indexGetESMapping
  | indexAddOrRemoveESAlias
  | indexGetESAliases
  | searchV1
  | searchDSL
  | searchMultipleSearch
  | searchDeleteByQuery
  | documentBulk
  | documentESBulk
  | documentMulti
  | documentCreate
  | documentCreateUpdate
  | documentGet
  | documentUpdate
  | documentDelete
  | elasticPutDataStream
  | elasticGetDataStream
deriving DecidableEq, Repr

namespace Operation

/-- The token that names an operation in settings and messages. -/
def token : Operation → String
  | .authCreateUpdateUser => "auth.CreateUpdateUser"
  | .authDeleteUser => "auth.DeleteUser"
  | .authListUser => "auth.ListUser"
  | .authListPermissions => "auth.ListPermissions"
  | .authListRole => "auth.ListRole"
  | .authCreateUpdateRole => "auth.CreateUpdateRole"
  | .authDeleteRole => "auth.DeleteRole"
  | .indexList => "index.List"
  | .indexNameList => "index.IndexNameList"
  | .indexCreate => "index.Create"
  | .indexDelete => "index.Delete"
  | .indexGet => "index.Get"
  | .indexExists => "index.Exists"
  | .indexRefresh => "index.Refresh"
  | .indexGetMapping => "index.GetMapping"
  | .indexSetMapping => "index.SetMapping"
  | .indexGetSettings => "index.GetSettings"
  | .indexSetSettings => "index.SetSettings"
  | .indexAnalyze => "index.Analyze"
  | .indexListTemplate => "index.ListTemplate"
  | .indexCreateTemplate => "index.CreateTemplate"
  | .indexGetTemplate => "index.GetTemplate"
  | .indexDeleteTemplate => "index.DeleteTemplate"
  | .indexCreateES => "index.CreateES"
  | .indexGetESMapping => "index.GetESMapping"
  | .indexAddOrRemoveESAlias => "index.AddOrRemoveESAlias"
  | .indexGetESAliases => "index.GetESAliases"
  | .searchV1 => "search.SearchV1"
  | .searchDSL => "search.SearchDSL"
  | .searchMultipleSearch => "search.MultipleSearch"
  | .searchDeleteByQuery => "search.DeleteByQuery"
  | .documentBulk => "document.Bulk"
  | .documentESBulk => "document.ESBulk"
  | .documentMulti => "document.Multi"
  | .documentCreate => "document.Create"
  | .documentCreateUpdate => "document.CreateUpdate"
  | .documentGet => "document.Get"
  | .documentUpdate => "document.Update"
  | .documentDelete => "document.Delete"
  | .elasticPutDataStream => "elastic.PutDataStream"
  | .elasticGetDataStream => "elastic.GetDataStream"

/-- Every operation, in the order of their listing. -/
def all : List Operation := [
  .authCreateUpdateUser, .authDeleteUser, .authListUser, .authListPermissions, .authListRole,
  .authCreateUpdateRole, .authDeleteRole, .indexList, .indexNameList, .indexCreate, .indexDelete,
  .indexGet, .indexExists, .indexRefresh, .indexGetMapping, .indexSetMapping, .indexGetSettings,
  .indexSetSettings, .indexAnalyze, .indexListTemplate, .indexCreateTemplate, .indexGetTemplate,
  .indexDeleteTemplate, .indexCreateES, .indexGetESMapping, .indexAddOrRemoveESAlias,
  .indexGetESAliases, .searchV1, .searchDSL, .searchMultipleSearch, .searchDeleteByQuery,
  .documentBulk, .documentESBulk, .documentMulti, .documentCreate, .documentCreateUpdate,
  .documentGet, .documentUpdate, .documentDelete, .elasticPutDataStream, .elasticGetDataStream]

theorem mem_all (x : Operation) : x ∈ all := by
  cases x <;> decide

def ofToken? (token : String) : Option Operation :=
  all.find? (·.token == token)

end Operation

end SearchGateway.Security
