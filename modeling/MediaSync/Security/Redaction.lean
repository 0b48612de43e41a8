import MediaSync.Foundation.Urls

/-!
# Secrets in names and paths

A name is compared in one spelling: words in lower case with underscores between
them. A URL path is searched for a marker that is a whole segment or the key of
an assignment and has a value, in the path as it is and after each of three
rounds of percent decoding.
-/

namespace MediaSync.Security

open JsonText (Text)
open Posix (splitBy)
open Urls (Tables lower before after)

/-- An underscore before every character that `cut` finds, given its neighbours. -/
def insertMarks (cut : Option Char → Char → Option Char → Bool) : Option Char → Text → Text
  | _, [] => []
  | previous, c :: rest =>
    (if cut previous c rest.head? then ['_'] else []) ++ c :: insertMarks cut (some c) rest

/-- The last capital of an acronym. -/
def endsAcronym (previous : Option Char) (c : Char) (next : Option Char) : Bool :=
  previous.any Char.isUpper && c.isUpper && next.any Char.isLower

def startsWord (previous : Option Char) (c : Char) (_ : Option Char) : Bool :=
  previous.any (fun d => d.isLower || d.isDigit) && c.isUpper

def normalizedSecretName (tables : Tables) (value : Text) : Text :=
  (lower tables (insertMarks startsWord none (insertMarks endsAcronym none value))).map fun c =>
    if c = '-' then '_' else c

/-- `$`: the end, or a line feed at the end. -/
def atEnd (t : Text) : Bool := t = [] || t = ['\n']

def compositeKeys : List Text :=
  ["apikey".toList, "api_key".toList, "accesskey".toList, "access_key".toList]

def startsCompositeKey (t : Text) : Bool :=
  compositeKeys.any fun key =>
    key.isPrefixOf t && (atEnd (t.drop key.length) || (t.drop key.length).head? = some '_')

/-- `_COMPOSITE_SECRET_KEY.search`. -/
def compositeSecretKey (t : Text) : Bool :=
  startsCompositeKey t || t.tails.any fun u => u.head? = some '_' && startsCompositeKey u.tail

def secretPathMarkers : List Text :=
  ["access_key", "access_token", "accesskey", "apikey", "api_key", "auth", "auth_key",
    "authorization", "cookie", "credential", "credentials", "password", "passwd", "private_key",
    "refresh_token", "secret", "session", "session_id", "sessionid", "sig", "sign", "signature",
    "signing_key", "token", "x_api_key", "xapikey"].map String.toList

def isSecretPathMarker (tables : Tables) (value : Text) : Bool :=
  let normalized := normalizedSecretName tables value
  normalized ∈ secretPathMarkers || compositeSecretKey normalized

def maxPathDecodePasses : Nat := 3

/-- The texts that percent decoding reaches, with the passes that are left. -/
def decodedVariants (tables : Tables) : Nat → Text → List Text
  | 0, _ => []
  | n + 1, current =>
    if tables.unquote current = current then []
    else tables.unquote current :: decodedVariants tables n (tables.unquote current)

def decodedPathVariants (tables : Tables) (path : Text) : List Text :=
  path :: decodedVariants tables maxPathDecodePasses path

/-- The values of one segment, with the segments that follow it. -/
def secretSegmentValues (tables : Tables) (segment : Text) (rest : List Text) : List Text :=
  let parts := splitBy (fun c => c = ';') segment
  (if isSecretPathMarker tables (parts.headD []) then (rest.find? (· != [])).toList else []) ++
    (parts.filter fun part =>
      '=' ∈ part && after '=' part != [] && isSecretPathMarker tables (before '=' part)).map
        (after '=')

def secretSegmentsValues (tables : Tables) : List Text → List Text
  | [] => []
  | segment :: rest =>
    secretSegmentValues tables segment rest ++ secretSegmentsValues tables rest

/-- The values of `_secret_path_values`, in no order. -/
def secretPathValues (tables : Tables) (path : Text) : List Text :=
  (decodedPathVariants tables path).flatMap fun variant =>
    secretSegmentsValues tables (splitBy (fun c => c = '/') variant)

def hasSecretUrlPath (tables : Tables) (path : Text) : Bool := secretPathValues tables path != []

end MediaSync.Security
