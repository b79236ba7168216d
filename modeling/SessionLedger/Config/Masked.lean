import SessionLedger.Text.Split
/-! URLs that may be logged: the password is replaced by stars. -/
namespace SessionLedger.Config
open Text

/-- What stands in place of a password. -/
def stars : List Char := "****".toList

/-- The characters of a URL without its password: what stands between the last colon before the
first at sign and that sign. The colon after a scheme does not count. -/
def maskedChars (url : List Char) : List Char :=
  match splitFirst? '@' url with
  | none => url
  | some (authority, host) => match splitLast? ':' authority with
    | none => url
    | some (user, password) =>
      if ['/', '/'].isPrefixOf password then url else user ++ ':' :: stars ++ '@' :: host

/-- A URL without its password. -/
def masked (url : String) : String :=
  String.ofList (maskedChars url.toList)

end SessionLedger.Config
