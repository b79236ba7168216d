import SessionLedger.Digest.Sha256
/-! The keyed digest HMAC over SHA-256. -/
namespace SessionLedger.Digest.Hmac

/-- A key as one block of 64 octets: a longer one is digested first, and zeros fill it up. -/
def block (key : List UInt8) : List UInt8 :=
  let key := if key.length ≤ 64 then key else Sha256.digest key
  key ++ List.replicate (64 - key.length) 0

/-- The code of a message under a key, 32 octets. -/
def code (key message : List UInt8) : List UInt8 :=
  let key := block key
  Sha256.digest (key.map (· ^^^ 0x5c) ++ Sha256.digest (key.map (· ^^^ 0x36) ++ message))

end SessionLedger.Digest.Hmac
