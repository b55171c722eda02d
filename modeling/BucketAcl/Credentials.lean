/-
The key pair that requests are signed with.
-/
import BucketAcl.Environment

namespace BucketAcl

/-- The public and the secret half of a key pair. -/
structure Credentials where
  accessKey : String
  secretKey : String
  deriving DecidableEq

/-- Each half from the environment, or else the given one. -/
def Credentials.ofEnvironment (env : Environment) (fallback : Credentials) : Credentials where
  accessKey := (env.get? "AWS_ACCESS_KEY_ID").getD fallback.accessKey
  secretKey := (env.get? "AWS_SECRET_ACCESS_KEY").getD fallback.secretKey

end BucketAcl
