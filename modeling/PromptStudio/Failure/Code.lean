/-!
# Error codes

Every refusal has a code, and the code decides the status of the response.
-/

namespace PromptStudio

/-- The kind of a refusal. -/
inductive ErrorCode where
  | internal
  | validation
  | forbidden
  | preconditionFailed
  | catalogInvalid
  | datasetValidationFailed
  | signatureInvalid
  | workerUnavailable
  | workerRejected
  | database
  | recordNotFound
  deriving DecidableEq, Repr

namespace ErrorCode

def all : List ErrorCode :=
  [internal, validation, forbidden, preconditionFailed, catalogInvalid, datasetValidationFailed, signatureInvalid,
    workerUnavailable, workerRejected, database, recordNotFound]

def name : ErrorCode → String
  | internal => "INTERNAL_ERROR"
  | validation => "VALIDATION_ERROR"
  | forbidden => "FORBIDDEN"
  | preconditionFailed => "PRECONDITION_FAILED"
  | catalogInvalid => "CATALOG_INVALID"
  | datasetValidationFailed => "DATASET_VALIDATION_FAILED"
  | signatureInvalid => "SIGNATURE_INVALID"
  | workerUnavailable => "WORKER_UNAVAILABLE"
  | workerRejected => "WORKER_REJECTED"
  | database => "DATABASE_ERROR"
  | recordNotFound => "RECORD_NOT_FOUND"

def ofName? (s : String) : Option ErrorCode :=
  all.find? (·.name == s)

def status : ErrorCode → Nat
  | internal => 500
  | validation => 400
  | forbidden => 403
  | preconditionFailed => 409
  | catalogInvalid => 500
  | datasetValidationFailed => 422
  | signatureInvalid => 401
  | workerUnavailable => 503
  | workerRejected => 502
  | database => 500
  | recordNotFound => 404

end ErrorCode

end PromptStudio
