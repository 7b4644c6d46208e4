import PromptStudio.Digest.Sha256

/-!
# Keyed digests

HMAC over SHA-256: the message is hashed behind one mask of the key, and that hash behind another.
-/

namespace PromptStudio.Hmac

def blockSize : Nat := 64

/-- The key at block size: a longer one is hashed first, a shorter one is filled with zeros. -/
def blockKey (key : Bytes) : Bytes :=
  let short := if blockSize < key.length then Sha256.hash key else key
  short ++ List.replicate (blockSize - short.length) 0

def digest (key message : Bytes) : Bytes :=
  let k := blockKey key
  Sha256.hash (k.map (· ^^^ 0x5C) ++ Sha256.hash (k.map (· ^^^ 0x36) ++ message))

@[simp] theorem length_digest (key message : Bytes) : (digest key message).length = 32 := by
  simp [digest]

end PromptStudio.Hmac
