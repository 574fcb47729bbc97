import SearchGateway.Routing.Table

/-!
# The routes of the gateway
-/

namespace SearchGateway.Routing

/-- Documents about the server and the way into its console. -/
def rootRoutes : List Declaration := [
  .anyone .root [.get] "/" (.redirect "ui/"),
  .anyone .root [.get] "/version" .version,
  .anyone .root [.get] "/healthz" .health,
  .anyone .root [.get] "/swagger" (.redirect "swagger/index.html"),
  .anyone .root [.get] "/swagger/*any" (.handler .metaApiDocs)]

/-- The native dialect. Its targets go to the handler as they are written. -/
def nativeRoutes : List Declaration := [
  .anyone .native [.post] "/login" (.handler .authLogin),
  .permitted .native [.post, .put] "/user" .authCreateUpdateUser .authCreateUpdateUser,
  .permitted .native [.delete] "/user/:id" .authDeleteUser .authDeleteUser,
  .permitted .native [.get] "/user" .authListUser .authListUser,
  .permitted .native [.get] "/permissions" .authListPermissions .authListPermissions,
  .permitted .native [.get] "/role" .authListRole .authListRole,
  .permitted .native [.post, .put] "/role" .authCreateUpdateRole .authCreateUpdateRole,
  .permitted .native [.delete] "/role/:id" .authDeleteRole .authDeleteRole,
  .permitted .native [.get] "/index" .indexList .indexList,
  .permitted .native [.get] "/index_name" .indexNameList .indexNameList,
  .permitted .native [.post, .put] "/index" .indexCreate .indexCreate,
  .permitted .native [.put] "/index/:target" .indexCreate .indexCreate,
  .permitted .native [.delete] "/index/:target" .indexDelete .indexDelete,
  .permitted .native [.get] "/index/:target" .indexGet .indexGet,
  .permitted .native [.head] "/index/:target" .indexExists .indexExists,
  .permitted .native [.post] "/index/:target/refresh" .indexRefresh .indexRefresh,
  .permitted .native [.get] "/:target/_mapping" .indexGetMapping .indexGetMapping,
  .permitted .native [.put] "/:target/_mapping" .indexSetMapping .indexSetMapping,
  .permitted .native [.get] "/:target/_settings" .indexGetSettings .indexGetSettings,
  .permitted .native [.put] "/:target/_settings" .indexSetSettings .indexSetSettings,
  .permitted .native [.post] "/_analyze" .indexAnalyze .indexAnalyze,
  .permitted .native [.post] "/:target/_analyze" .indexAnalyze .indexAnalyze,
  .permitted .native [.post] "/:target/_search" .searchV1 .searchV1,
  .permitted .native [.post] "/_bulk" .documentBulk .documentBulk,
  .permitted .native [.post] "/:target/_bulk" .documentBulk .documentBulk,
  .permitted .native [.post] "/:target/_multi" .documentMulti .documentMulti,
  .permitted .native [.post] "/_bulkv2" .documentBulk .documentBulkv2,
  .permitted .native [.post] "/:target/_bulkv2" .documentBulk .documentBulkv2,
  .permitted .native [.post, .put] "/:target/_doc" .documentCreate .documentCreateUpdate,
  .permitted .native [.put] "/:target/_doc/:id" .documentCreate .documentCreateUpdate,
  .permitted .native [.get, .head] "/:target/_doc/:id" .documentGet .documentGet,
  .permitted .native [.post] "/:target/_update/:id" .documentUpdate .documentUpdate,
  .permitted .native [.delete] "/:target/_doc/:id" .documentDelete .documentDelete]

/-- The Elasticsearch dialect. Templates and data streams have names of their own, so a target is
resolved only where it names indices. -/
def elasticRoutes : List Declaration := [
  .anyone .elastic [.get, .head] "/" .clusterInfo,
  .anyone .elastic [.get] "/_license" .license,
  .anyone .elastic [.get] "/_xpack" .features,
  .resolving [.post] "/_search" .searchDSL .searchDSL .tolerant,
  .resolving [.post] "/_msearch" .searchMultipleSearch .searchMultipleSearch .tolerant,
  .resolving [.post] "/:target/_search" .searchDSL .searchDSL .tolerant,
  .resolving [.post] "/:target/_msearch" .searchMultipleSearch .searchMultipleSearch .tolerant,
  .resolving [.post] "/:target/_delete_by_query"
    .searchDeleteByQuery .searchDeleteByQuery .required,
  .permitted .elastic [.get] "/_index_template" .indexListTemplate .indexListTemplate,
  .permitted .elastic [.post] "/_index_template" .indexCreateTemplate .indexCreateTemplate,
  .permitted .elastic [.put] "/_index_template/:target" .indexCreateTemplate .indexCreateTemplate,
  .permitted .elastic [.get, .head] "/_index_template/:target" .indexGetTemplate .indexGetTemplate,
  .permitted .elastic [.delete] "/_index_template/:target"
    .indexDeleteTemplate .indexDeleteTemplate,
  .permitted .elastic [.put] "/_data_stream/:target" .elasticPutDataStream .elasticPutDataStream,
  .permitted .elastic [.get, .head] "/_data_stream/:target"
    .elasticGetDataStream .elasticGetDataStream,
  .resolving [.put] "/:target" .indexCreateES .indexCreateES .create,
  .resolving [.head] "/:target" .indexExists .indexExists .required,
  .resolving [.get] "/:target/_mapping" .indexGetESMapping .indexGetESMapping .required,
  .resolving [.put] "/:target/_mapping" .indexSetMapping .indexSetMapping .required,
  .resolving [.get] "/:target/_settings" .indexGetSettings .indexGetSettings .required,
  .resolving [.put] "/:target/_settings" .indexSetSettings .indexSetSettings .required,
  .permitted .elastic [.post] "/_analyze" .indexAnalyze .indexAnalyze,
  .resolving [.post] "/:target/_analyze" .indexAnalyze .indexAnalyze .required,
  .resolving [.post] "/:target/_refresh" .indexRefresh .indexRefresh .required,
  .permitted .elastic [.post] "/_aliases" .indexAddOrRemoveESAlias .indexAddOrRemoveESAlias,
  .permitted .elastic [.get] "/_alias" .indexGetESAliases .indexGetESAliases,
  .resolving [.get] "/:target/_alias" .indexGetESAliases .indexGetESAliases .tolerant,
  .permitted .elastic [.get] "/_alias/:target_alias" .indexGetESAliases .indexGetESAliases,
  .permitted .elastic [.post] "/_bulk" .documentESBulk .documentESBulk,
  .resolving [.post, .put] "/:target/_bulk" .documentESBulk .documentESBulk .create,
  .resolving [.post] "/:target/_doc" .documentCreateUpdate .documentCreateUpdate .create,
  .resolving [.put, .post] "/:target/_doc/:id" .documentCreateUpdate .documentCreateUpdate .create,
  .resolving [.put, .post] "/:target/_create/:id"
    .documentCreateUpdate .documentCreateUpdate .create,
  .resolving [.post] "/:target/_update/:id" .documentUpdate .documentUpdate .required,
  .resolving [.delete] "/:target/_doc/:id" .documentDelete .documentDelete .required]

def standardRoutes : List Declaration :=
  rootRoutes ++ nativeRoutes ++ elasticRoutes

def Table.standard : Except DuplicateRoute Table :=
  Table.build standardRoutes

end SearchGateway.Routing
