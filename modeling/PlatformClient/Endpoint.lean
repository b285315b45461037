import PlatformClient.MediaType
import PlatformClient.Query
import PlatformClient.Settings

/-!
# Addresses of the platform

Each operation of the platform has a path below one of the two base addresses, and takes its
parameters in a query. All but the request for a token carry the token.

## Main definitions

* `Endpoint`: the operations with their parameters
* `Endpoint.path`, `Endpoint.parameters`: path and query of an operation
* `Endpoint.address`: the address of an operation under a configuration
* `Endpoint.addressOfPoints`: the same for parameters of any code points
-/

namespace PlatformClient

/-- The operations of the platform with their parameters, which are texts of some kind. -/
inductive Endpoint (α : Type := String) where
  | accessToken (appId appSecret : α)
  | mediaUpload (token kind : α)
  | mediaDownload (token mediaId : α)
  | newsUpload (token : α)
  | videoUpload (token : α)
  | orderById (token : α)
  | ordersByFilter (token : α)
  | deliverySetting (token : α)
  | orderClosing (token : α)
deriving DecidableEq

namespace Endpoint

variable {α β : Type}

/-- An operation with parameters of another kind. -/
def map (f : α → β) : Endpoint α → Endpoint β
  | accessToken appId appSecret => accessToken (f appId) (f appSecret)
  | mediaUpload token kind => mediaUpload (f token) (f kind)
  | mediaDownload token mediaId => mediaDownload (f token) (f mediaId)
  | newsUpload token => newsUpload (f token)
  | videoUpload token => videoUpload (f token)
  | orderById token => orderById (f token)
  | ordersByFilter token => ordersByFilter (f token)
  | deliverySetting token => deliverySetting (f token)
  | orderClosing token => orderClosing (f token)

/-- Whether an operation belongs to the base address for files. -/
def isFile : Endpoint α → Bool
  | mediaUpload .. | mediaDownload .. | videoUpload .. => true
  | _ => false

/-- The base address of an operation. -/
def base (settings : Settings) (endpoint : Endpoint α) : String :=
  if endpoint.isFile then settings.fileBase else settings.apiBase

/-- The path of an operation. -/
def path : Endpoint α → String
  | accessToken .. => "/cgi-bin/token"
  | mediaUpload .. => "/cgi-bin/media/upload"
  | mediaDownload .. => "/cgi-bin/media/get"
  | newsUpload _ => "/cgi-bin/media/uploadnews"
  | videoUpload _ => "/cgi-bin/media/uploadvideo"
  | orderById _ => "/merchant/order/getbyid"
  | ordersByFilter _ => "/merchant/order/getbyfilter"
  | deliverySetting _ => "/merchant/order/setdelivery"
  | orderClosing _ => "/merchant/order/close"

/-- The parameters of an operation, in order. Only the kind of the request for a token is fixed. -/
def parametersWith (fixed : String → α) : Endpoint α → List (String × α)
  | accessToken appId appSecret =>
    [("grant_type", fixed "client_credential"), ("appid", appId), ("secret", appSecret)]
  | mediaUpload token kind => [("access_token", token), ("type", kind)]
  | mediaDownload token mediaId => [("access_token", token), ("media_id", mediaId)]
  | newsUpload token | videoUpload token | orderById token | ordersByFilter token
  | deliverySetting token | orderClosing token => [("access_token", token)]

/-- The parameters of an operation. -/
def parameters (endpoint : Endpoint) : Query.Parameters := endpoint.parametersWith id

/-- The query of an operation. -/
def query (endpoint : Endpoint) : String := String.ofList (Query.write endpoint.parameters)

/-- The address of an operation. -/
def address (settings : Settings) (endpoint : Endpoint) : String :=
  endpoint.base settings ++ endpoint.path ++ "?" ++ endpoint.query

/-- The address of an operation whose parameters may hold surrogates, which are refused. -/
def addressOfPoints (settings : Settings) (endpoint : Endpoint (List CodePoint)) :
    Except Text.SurrogateFault String := do
  let query ← Query.ofPoints (endpoint.parametersWith CodePoint.ofText)
  return endpoint.base settings ++ endpoint.path ++ "?" ++ String.ofList query

end Endpoint

end PlatformClient
