/-!
# ErrorBoundary.Classification

The closed set of reasons for which a request fails. A classification is the key of the status
table, the name that settings use, and the code that a client sees.

* `Classification.name`           — in settings and request bodies.
* `Classification.key`            — in error bodies and events.
* `Classification.label`          — in messages about settings.
* `Classification.defaultMessage` — for an error that brings no message of its own.
* `Classification.ofName?`        — the classification of a name.
-/

namespace ErrorBoundary

/-- Why a request fails. The order of the constructors is the order of the classifications. -/
inductive Classification where
  | entityNotExists
  | entityAlreadyExists
  | entityReadOnly
  | sortParamInvalidDirection
  | sortParamInvalidField
  | sortParamSyntax
  | rsqlParamInvalidField
  | rsqlSearchParamSyntax
  | insufficientPermission
  | artifactUploadFailed
  | artifactUploadFailedSha1Match
  | artifactUploadFailedMd5Match
  | artifactDeleteFailed
  | artifactLoadFailed
  | actionStatusTooManyEntries
  | attributesTooManyEntries
  | actionNotCancelable
  | actionNotForceQuittable
  | dsCreationFailedMissingModule
  | dsModuleUnsupported
  | dsTypeUndefined
  | tenantNotExists
  | entityLocked
  | rolloutIllegalState
  | configurationValueInvalid
  | configurationKeyInvalid
  | invalidTargetAddress
  | restBodyNotReadable
  | genericError
  | concurrentModification
deriving DecidableEq

namespace Classification

def all : List Classification := [
  .entityNotExists,
  .entityAlreadyExists,
  .entityReadOnly,
  .sortParamInvalidDirection,
  .sortParamInvalidField,
  .sortParamSyntax,
  .rsqlParamInvalidField,
  .rsqlSearchParamSyntax,
  .insufficientPermission,
  .artifactUploadFailed,
  .artifactUploadFailedSha1Match,
  .artifactUploadFailedMd5Match,
  .artifactDeleteFailed,
  .artifactLoadFailed,
  .actionStatusTooManyEntries,
  .attributesTooManyEntries,
  .actionNotCancelable,
  .actionNotForceQuittable,
  .dsCreationFailedMissingModule,
  .dsModuleUnsupported,
  .dsTypeUndefined,
  .tenantNotExists,
  .entityLocked,
  .rolloutIllegalState,
  .configurationValueInvalid,
  .configurationKeyInvalid,
  .invalidTargetAddress,
  .restBodyNotReadable,
  .genericError,
  .concurrentModification]

def index (c : Classification) : Nat := c.ctorIdx

def name : Classification → String
  | .entityNotExists => "entity_not_exists"
  | .entityAlreadyExists => "entity_already_exists"
  | .entityReadOnly => "entity_read_only"
  | .sortParamInvalidDirection => "sort_param_invalid_direction"
  | .sortParamInvalidField => "sort_param_invalid_field"
  | .sortParamSyntax => "sort_param_syntax"
  | .rsqlParamInvalidField => "rsql_param_invalid_field"
  | .rsqlSearchParamSyntax => "rsql_search_param_syntax"
  | .insufficientPermission => "insufficient_permission"
  | .artifactUploadFailed => "artifact_upload_failed"
  | .artifactUploadFailedSha1Match => "artifact_upload_failed_sha1_match"
  | .artifactUploadFailedMd5Match => "artifact_upload_failed_md5_match"
  | .artifactDeleteFailed => "artifact_delete_failed"
  | .artifactLoadFailed => "artifact_load_failed"
  | .actionStatusTooManyEntries => "action_status_too_many_entries"
  | .attributesTooManyEntries => "attributes_too_many_entries"
  | .actionNotCancelable => "action_not_cancelable"
  | .actionNotForceQuittable => "action_not_force_quittable"
  | .dsCreationFailedMissingModule => "ds_creation_failed_missing_module"
  | .dsModuleUnsupported => "ds_module_unsupported"
  | .dsTypeUndefined => "ds_type_undefined"
  | .tenantNotExists => "tenant_not_exists"
  | .entityLocked => "entity_locked"
  | .rolloutIllegalState => "rollout_illegal_state"
  | .configurationValueInvalid => "configuration_value_invalid"
  | .configurationKeyInvalid => "configuration_key_invalid"
  | .invalidTargetAddress => "invalid_target_address"
  | .restBodyNotReadable => "rest_body_not_readable"
  | .genericError => "generic_error"
  | .concurrentModification => "concurrent_modification"

/-- What clients see as the code of an error. -/
def key : Classification → String
  | .entityNotExists => "rollout.server.error.repo.entityNotExists"
  | .entityAlreadyExists => "rollout.server.error.repo.entityAlreadyExists"
  | .entityReadOnly => "rollout.server.error.repo.entityReadOnly"
  | .sortParamInvalidDirection => "rollout.server.error.rest.param.sortParamInvalidDirection"
  | .sortParamInvalidField => "rollout.server.error.rest.param.sortParamInvalidField"
  | .sortParamSyntax => "rollout.server.error.rest.param.sortParamSyntax"
  | .rsqlParamInvalidField => "rollout.server.error.rest.param.rsqlInvalidField"
  | .rsqlSearchParamSyntax => "rollout.server.error.rest.param.rsqlSearchParamSyntax"
  | .insufficientPermission => "rollout.server.error.insufficientPermission"
  | .artifactUploadFailed => "rollout.server.error.artifact.uploadFailed"
  | .artifactUploadFailedSha1Match => "rollout.server.error.artifact.uploadFailed.checksum.sha1.match"
  | .artifactUploadFailedMd5Match => "rollout.server.error.artifact.uploadFailed.checksum.md5.match"
  | .artifactDeleteFailed => "rollout.server.error.artifact.deleteFailed"
  | .artifactLoadFailed => "rollout.server.error.artifact.loadFailed"
  | .actionStatusTooManyEntries => "rollout.server.error.quota.tooManyStatusEntries"
  | .attributesTooManyEntries => "rollout.server.error.quota.tooManyAttributeEntries"
  | .actionNotCancelable => "rollout.server.error.action.notCancelable"
  | .actionNotForceQuittable => "rollout.server.error.action.notForceQuittable"
  | .dsCreationFailedMissingModule => "rollout.server.error.distributionset.missingModule"
  | .dsModuleUnsupported => "rollout.server.error.distributionset.moduleUnsupported"
  | .dsTypeUndefined => "rollout.server.error.distributionset.typeUndefined"
  | .tenantNotExists => "rollout.server.error.repo.tenantNotExists"
  | .entityLocked => "rollout.server.error.entityLocked"
  | .rolloutIllegalState => "rollout.server.error.rollout.illegalState"
  | .configurationValueInvalid => "rollout.server.error.configValueInvalid"
  | .configurationKeyInvalid => "rollout.server.error.configKeyInvalid"
  | .invalidTargetAddress => "rollout.server.error.repo.invalidTargetAddress"
  | .restBodyNotReadable => "rollout.server.error.rest.body.notReadable"
  | .genericError => "rollout.server.error.repo.genericError"
  | .concurrentModification => "rollout.server.error.repo.concurrentModification"

def defaultMessage : Classification → String
  | .entityNotExists => "The given entity does not exist in the repository"
  | .entityAlreadyExists => "The given entity already exists in the repository"
  | .entityReadOnly => "The given entity is read only and the change cannot be completed"
  | .sortParamInvalidDirection => "The given sort parameter direction does not exist"
  | .sortParamInvalidField => "The given sort parameter field does not exist"
  | .sortParamSyntax => "The given sort parameter is not well formed"
  | .rsqlParamInvalidField => "The given search parameter field does not exist"
  | .rsqlSearchParamSyntax => "The given search parameter is not well formed"
  | .insufficientPermission => "Insufficient permission"
  | .artifactUploadFailed => "Upload of artifact failed with internal server error"
  | .artifactUploadFailedSha1Match =>
    "Upload of artifact failed as the provided SHA1 checksum did not match"
  | .artifactUploadFailedMd5Match =>
    "Upload of artifact failed as the provided MD5 checksum did not match"
  | .artifactDeleteFailed => "Deletion of artifact failed with internal server error"
  | .artifactLoadFailed => "Load of artifact failed with internal server error"
  | .actionStatusTooManyEntries => "Too many status entries have been inserted"
  | .attributesTooManyEntries => "Too many attribute entries have been inserted"
  | .actionNotCancelable => "Only active actions which are in status pending are cancelable"
  | .actionNotForceQuittable => "Only active actions which are in status pending can be force quit"
  | .dsCreationFailedMissingModule =>
    "Creation of distribution set failed as module is missing that is configured as mandatory"
  | .dsModuleUnsupported =>
    "Distribution set type does not contain the given module, i.e. is incompatible"
  | .dsTypeUndefined => "Distribution set type is not yet defined"
  | .tenantNotExists => "The tenant does not exist"
  | .entityLocked => "The given entity is locked by the server"
  | .rolloutIllegalState => "The rollout is in the wrong state for the requested operation"
  | .configurationValueInvalid => "The given configuration value is invalid"
  | .configurationKeyInvalid => "The given configuration key is not known"
  | .invalidTargetAddress => "The target address is not well formed"
  | .restBodyNotReadable => "The given request body is not well formed"
  | .genericError => "Unknown error occurred"
  | .concurrentModification => "The entity has been modified by another user in the meantime"

/-- Words joined without a blank, each with a capital. -/
def capitalize (words : List Char) (atStart : Bool) : List Char :=
  match words with
  | [] => []
  | c :: rest =>
    if c = '_' then capitalize rest true
    else (if atStart then c.toUpper else c) :: capitalize rest false

def label (c : Classification) : String := String.ofList (capitalize c.name.toList true)

def ofName? (s : String) : Option Classification := all.find? fun c => c.name = s

end Classification
end ErrorBoundary
