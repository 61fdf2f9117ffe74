import CommitmentOptimizer.Sessions.AccessTokens
import CommitmentOptimizer.Sessions.SessionTables
import CommitmentOptimizer.Foundations.Json

/-!
# API key credentials

`api-key-credential.ts`. SHA-256 and the random bytes come from outside.
-/

namespace CommitmentOptimizer.Tenants.ApiKeyCredentials

open Foundations
open Foundations.SqlConstraints
open Sessions.AccessTokens
open Sessions.SessionTables

set_option autoImplicit false

def firstRunApiKeyNote : String := "system:first-run:v1"

/-- `createHash("sha256").update(text, "utf8").digest()`. -/
structure Sha256 where
  digest : String → Digest
  octets : ∀ text, (digest text).length = 32

/-- `digest("hex")`. -/
def hexText (digest : Digest) : String :=
  String.ofList (digest.flatMap fun byte =>
    [Nat.digitChar (byte.toNat / 16), Nat.digitChar (byte.toNat % 16)])

/-- `^[a-z][a-z0-9]{0,15}$`. -/
def isApiKeyPrefix : List Char → Bool
  | [] => false
  | first :: rest =>
      'a' ≤ first && first ≤ 'z' && rest.length ≤ 15 &&
        rest.all fun character =>
          ('a' ≤ character && character ≤ 'z') || ('0' ≤ character && character ≤ '9')

/-- `validateApiKeyPrefix`; `none` is the error it throws. -/
def validateApiKeyPrefix (text : String) : Option String :=
  let normalized := jsTrim text.toList
  if isApiKeyPrefix normalized then some (String.ofList normalized) else none

structure ApiKeyCredential where
  plaintext : String
  keyHash : String
  deriving DecidableEq, Repr

def createApiKeyCredential (sha : Sha256) (keyPrefix : String) (entropy : List UInt8) :
    Option ApiKeyCredential := do
  let safePrefix ← validateApiKeyPrefix keyPrefix
  if entropy.length = 32 then
    let plaintext := safePrefix ++ "_live_v1_" ++ String.ofList (encodeBase64Url entropy)
    some { plaintext, keyHash := hexText (sha.digest plaintext) }
  else none

/-- `^[0-9a-f]{64}$`. -/
def isKeyHash (text : String) : Bool :=
  text.toList.length == 64 && text.toList.all fun character =>
    ('0' ≤ character && character ≤ '9') || ('a' ≤ character && character ≤ 'f')

theorem hex_text_is_key_hash {digest : Digest} (octets : digest.length = 32) :
    isKeyHash (hexText digest) = true := by
  have digit : ∀ value : Fin 16, (('0' ≤ Nat.digitChar value && Nat.digitChar value ≤ '9') ||
      ('a' ≤ Nat.digitChar value && Nat.digitChar value ≤ 'f')) = true := by decide
  rw [isKeyHash, hexText, String.toList_ofList, Bool.and_eq_true, List.all_eq_true]
  constructor
  · simp [List.length_flatMap, octets]
  · intro character member
    obtain ⟨byte, _, written⟩ := List.mem_flatMap.mp member
    have bound := byte.toNat_lt
    rcases List.mem_cons.mp written with rfl | low
    · exact digit ⟨byte.toNat / 16, by omega⟩
    · rw [List.mem_singleton.mp low]
      exact digit ⟨byte.toNat % 16, by omega⟩

theorem create_api_key_credential_hash {sha : Sha256} {keyPrefix : String} {entropy : List UInt8}
    {credential : ApiKeyCredential}
    (created : createApiKeyCredential sha keyPrefix entropy = some credential) :
    isKeyHash credential.keyHash = true := by
  obtain ⟨safePrefix, _, created⟩ := Option.bind_eq_some_iff.mp created
  split_ifs at created
  obtain rfl := Option.some.inj created
  exact hex_text_is_key_hash (sha.octets _)

end CommitmentOptimizer.Tenants.ApiKeyCredentials
