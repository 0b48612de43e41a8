import MediaSync.Foundation.JsonText
import MediaSync.Foundation.Posix

/-!
# URLs and host names

`urllib.parse.urlsplit` with the host name and the port of its result,
`urlunsplit` for a URL with an authority, and the `idna` codec. The codec passes
an ASCII name as it is and takes any other apart at four kinds of dots, the last
of which it keeps.

What these rest on are tables: of Unicode, and the parser of `ipaddress`. A text
whose parts could stand in a URL is read back as these parts.
-/

namespace MediaSync.Urls

open JsonText (Text number)
open Posix (splitBy)

/-- An object of `ipaddress`, by what is asked of it. -/
structure IpAddress where
  version : Nat
  value : Nat
  text : Text
  isGlobal : Bool
  isPrivate : Bool
  isLoopback : Bool
  isLinkLocal : Bool
  isMulticast : Bool
  isUnspecified : Bool
  isReserved : Bool
  deriving DecidableEq, Repr

/-- What is looked up: `unicodedata.normalize("NFKC", text)`, `str.lower` of a text that is not
ASCII, `urllib.parse.unquote`, the nameprep of a label with its Punycode where that is needed, and
`ipaddress.ip_address`. -/
structure Tables where
  nfkc : Text → Text
  lower : Text → Text
  unquote : Text → Text
  prepare : Text → Option Text
  ipAddress : Text → Option IpAddress

def isAscii (c : Char) : Bool := c.toNat < 0x80

/-- What holds of the first 128 characters holds of every ASCII character. -/
theorem of_isAscii {P : Char → Prop} (h : ∀ n < 128, P (Char.ofNat n)) {c : Char}
    (hc : isAscii c = true) : P c := by
  have hlt : c.toNat < 128 := of_decide_eq_true hc
  rw [← Char.ofNat_toNat c]
  exact h _ hlt

/-- `str.lower`. -/
def lower (tables : Tables) (t : Text) : Text :=
  if t.all isAscii then t.map Char.toLower else tables.lower t

def before (c : Char) (t : Text) : Text := t.takeWhile (· != c)

/-- What follows the first `c`. -/
def after (c : Char) (t : Text) : Text := (t.dropWhile (· != c)).drop 1

/-- What follows the last `c`, or all of the text. -/
def afterLast (c : Char) (t : Text) : Text := (t.reverse.takeWhile (· != c)).reverse

section Cutting

variable {c : Char} {t u : Text}

theorem before_append (ht : c ∉ t) : before c (t ++ c :: u) = t := by
  unfold before
  rw [List.takeWhile_append_of_pos fun d hd => ?_]
  · simp
  · rw [bne_iff_ne]
    exact fun hdc => ht (hdc ▸ hd)

theorem after_append (ht : c ∉ t) : after c (t ++ c :: u) = u := by
  unfold after
  rw [List.dropWhile_append_of_pos fun d hd => ?_]
  · simp
  · rw [bne_iff_ne]
    exact fun hdc => ht (hdc ▸ hd)

@[simp] theorem before_cons (c : Char) (u : Text) : before c (c :: u) = [] :=
  before_append (t := []) List.not_mem_nil

@[simp] theorem after_cons (c : Char) (u : Text) : after c (c :: u) = u :=
  after_append (t := []) List.not_mem_nil

theorem before_of_notMem (ht : c ∉ t) : before c t = t := by
  unfold before
  rw [List.takeWhile_eq_self_iff]
  intro d hd
  rw [bne_iff_ne]
  exact fun hdc => ht (hdc ▸ hd)

theorem after_of_notMem (ht : c ∉ t) : after c t = [] := by
  have hdrop : t.dropWhile (· != c) = [] := by
    rw [List.dropWhile_eq_nil_iff]
    intro d hd
    rw [bne_iff_ne]
    exact fun hdc => ht (hdc ▸ hd)
  rw [after, hdrop, List.drop_nil]

theorem afterLast_of_notMem (ht : c ∉ t) : afterLast c t = t := by
  have hbefore := before_of_notMem (t := t.reverse) fun hc => ht (List.mem_reverse.1 hc)
  rw [before] at hbefore
  rw [afterLast, hbefore, List.reverse_reverse]

theorem mem_before {d : Char} (h : d ∈ before c t) : d ∈ t ∧ d ≠ c :=
  ⟨(List.takeWhile_prefix _).mem h, by simpa using List.mem_takeWhile_imp h⟩

theorem notMem_before (c : Char) (t : Text) : c ∉ before c t := fun h => (mem_before h).2 rfl

theorem mem_after {d : Char} (h : d ∈ after c t) : d ∈ t :=
  (List.dropWhile_suffix _).mem (List.mem_of_mem_drop h)

theorem mem_afterLast {d : Char} (h : d ∈ afterLast c t) : d ∈ t :=
  List.mem_reverse.1 ((List.takeWhile_prefix _).mem (List.mem_reverse.1 h))

/-- A text with `c` is cut there. -/
theorem before_after (h : c ∈ t) : t = before c t ++ c :: after c t := by
  have hsplit := List.takeWhile_append_dropWhile (p := (· != c)) (l := t)
  cases hrest : t.dropWhile (· != c) with
  | nil =>
    rw [List.dropWhile_eq_nil_iff] at hrest
    have hne := hrest c h
    simp at hne
  | cons d rest =>
    have hd : d = c := by
      have hhead := List.head?_dropWhile_not (· != c) t
      rw [hrest] at hhead
      simpa using hhead
    rw [hrest, hd] at hsplit
    rw [before, after, hrest]
    exact hsplit.symm

end Cutting

/-- `SplitResult`. -/
structure SplitResult where
  scheme : Text
  netloc : Text
  path : Text
  query : Text
  fragment : Text
  deriving DecidableEq, Repr

def isHexDigit (c : Char) : Bool := c.isDigit || ('a' ≤ c && c ≤ 'f') || ('A' ≤ c && c ≤ 'F')

/-- `_check_bracketed_host`, which raises where this is false. -/
def checkBracketedHost (tables : Tables) (host : Text) : Bool :=
  if host.head? = some 'v' then
    let digits := host.tail.takeWhile isHexDigit
    let rest := host.tail.dropWhile isHexDigit
    digits != [] && rest.head? == some '.' && rest.tail != [] && rest.tail.all (· != '\n')
  else (tables.ipAddress host).any fun ip => ip.version != 4

/-- `_check_bracketed_netloc`. -/
def checkBracketedNetloc (tables : Tables) (netloc : Text) : Bool :=
  let info := afterLast '@' netloc
  if '[' ∈ info then
    let bracketed := after '[' info
    let port := after ']' bracketed
    before '[' info == [] && (port == [] || port.head? == some ':') &&
      checkBracketedHost tables (before ']' bracketed)
  else checkBracketedHost tables (before ':' info)

def checkBrackets (tables : Tables) (netloc : Text) : Bool :=
  if '[' ∈ netloc ∨ ']' ∈ netloc then
    '[' ∈ netloc && ']' ∈ netloc && checkBracketedNetloc tables netloc
  else true

/-- The characters that end or divide an authority. -/
def isReserved (c : Char) : Bool := c = '/' || c = '?' || c = '#' || c = '@' || c = ':'

/-- `_checknetloc`. -/
def checkNetloc (tables : Tables) (netloc : Text) : Bool :=
  let n := netloc.filter fun c => c != '@' && c != ':' && c != '#' && c != '?'
  netloc.all isAscii || tables.nfkc n == n || (tables.nfkc n).all fun c => !isReserved c

def isSchemeChar (c : Char) : Bool := c.isAlphanum || c = '+' || c = '-' || c = '.'

/-- The scheme and what follows its colon. -/
def splitScheme (url : Text) : Text × Text :=
  let scheme := before ':' url
  if ':' ∈ url ∧ scheme.head?.any Char.isAlpha ∧ scheme.all isSchemeChar then
    (scheme.map Char.toLower, after ':' url)
  else ([], url)

def isDelimiter (c : Char) : Bool := c = '/' || c = '?' || c = '#'

/-- A character that `urlsplit` drops wherever it stands. -/
def isRemoved (c : Char) : Bool := c = '\t' || c = '\r' || c = '\n'

/-- What follows the authority. -/
def splitTail (scheme netloc url : Text) : SplitResult :=
  ⟨scheme, netloc, before '?' (before '#' url), after '?' (before '#' url), after '#' url⟩

/-- `urlsplit`, with `none` where it raises `ValueError`. -/
def urlsplit (tables : Tables) (url : Text) : Option SplitResult :=
  let url := (url.dropWhile (fun c => c.toNat ≤ 0x20)).filter (fun c => !isRemoved c)
  let rest := (splitScheme url).2
  if rest.take 2 = ['/', '/'] then
    let netloc := (rest.drop 2).takeWhile (fun c => !isDelimiter c)
    if checkBrackets tables netloc && checkNetloc tables netloc then
      some (splitTail (splitScheme url).1 netloc
        ((rest.drop 2).dropWhile (fun c => !isDelimiter c)))
    else none
  else some (splitTail (splitScheme url).1 [] rest)

/-- `_hostinfo`: the host and the port as they stand in an authority. -/
def hostinfo (netloc : Text) : Text × Text :=
  let info := afterLast '@' netloc
  if '[' ∈ info then
    (before ']' (after '[' info), after ':' (after ']' (after '[' info)))
  else (before ':' info, after ':' info)

namespace SplitResult

/-- `hostname`. -/
def hostname (tables : Tables) (s : SplitResult) : Option Text :=
  let host := (hostinfo s.netloc).1
  if host = [] then none
  else some (lower tables (before '%' host) ++ host.dropWhile (· != '%'))

/-- `port`, with `none` where it raises `ValueError`. -/
def port (s : SplitResult) : Option (Option Nat) :=
  let port := (hostinfo s.netloc).2
  if port = [] then some none
  else if port.all Char.isDigit ∧ Nat.ofDigitChars 10 port 0 ≤ 65535 then
    some (some (Nat.ofDigitChars 10 port 0))
  else none

/-- `username is not None`, which a password needs too. -/
def hasUserinfo (s : SplitResult) : Bool := '@' ∈ s.netloc

end SplitResult

/-- The query with its question mark. -/
def queryPart (query : Text) : Text := if query = [] then [] else '?' :: query

/-- `urlunsplit` for a scheme and an authority, a path of its own and no fragment. -/
def urlunsplit (scheme netloc path query : Text) : Text :=
  scheme ++ ':' :: '/' :: '/' :: (netloc ++ path ++ queryPart query)

/-- A host as it stands in an authority. -/
def bracketed (host : Text) : Text := if ':' ∈ host then '[' :: host ++ [']'] else host

/-- A host with a port that is not that of its scheme. -/
def authority (host : Text) (port : Option Nat) : Text :=
  bracketed host ++ port.elim [] fun n => ':' :: number n

/-- The dots between labels. -/
def isDot (c : Char) : Bool :=
  c = '.' || c.toNat = 0x3002 || c.toNat = 0xFF0E || c.toNat = 0xFF61

/-- `ToASCII`. -/
def toAscii (tables : Tables) (label : Text) : Option Text :=
  (if label.all isAscii then some label else tables.prepare label).bind fun ascii =>
    if 0 < ascii.length ∧ ascii.length < 64 then some ascii else none

/-- The labels of an ASCII name: the last one may be empty. -/
def labelsFit : List Text → Bool
  | [] => true
  | [label] => label.length < 64
  | label :: rest => 0 < label.length && label.length < 64 && labelsFit rest

/-- Labels with a dot between them. -/
def joinLabels (labels : List Text) : Text := ['.'].intercalate labels

/-- `str.encode("idna")`, with `none` where it raises `UnicodeError`. -/
def idnaEncode (tables : Tables) (name : Text) : Option Text :=
  if name.all isAscii then
    if name = [] ∨ labelsFit (splitBy (fun c => c = '.') name) then some name else none
  else
    let labels := splitBy isDot name
    if labels.getLast? = some [] then
      (labels.dropLast.mapM (toAscii tables)).map fun ls => joinLabels ls ++ ['.']
    else (labels.mapM (toAscii tables)).map joinLabels

/-! ## Reading a URL back -/

section ReadingBack

variable {tables : Tables} {scheme netloc path query host : Text} {port : Option Nat}

theorem splitTail_path (hpath : ∀ c ∈ path, c ≠ '?' ∧ c ≠ '#') (hquery : '#' ∉ query) :
    splitTail scheme netloc (path ++ queryPart query) = ⟨scheme, netloc, path, query, []⟩ := by
  have hnumber : '#' ∉ path ++ queryPart query := by
    rw [List.mem_append, queryPart]
    rintro (h | h)
    · exact (hpath _ h).2 rfl
    · split at h
      · cases h
      · rcases List.mem_cons.1 h with h | h
        · exact absurd h (by decide)
        · exact hquery h
  have hmark : '?' ∉ path := fun h => (hpath _ h).1 rfl
  unfold splitTail
  rw [before_of_notMem hnumber, after_of_notMem hnumber]
  by_cases hempty : query = []
  · rw [queryPart, if_pos hempty, List.append_nil, before_of_notMem hmark, after_of_notMem hmark,
      hempty]
  · rw [queryPart, if_neg hempty, before_append hmark, after_append hmark]

/-- What is cut where nothing is dropped: the authority ends at the first delimiter. -/
theorem urlsplit_kept (hscheme : scheme = "http".toList ∨ scheme = "https".toList)
    (hkept : ∀ c ∈ urlunsplit scheme netloc path query, isRemoved c = false) :
    urlsplit tables (urlunsplit scheme netloc path query) =
      if checkBrackets tables
            ((netloc ++ path ++ queryPart query).takeWhile (fun c => !isDelimiter c)) &&
          checkNetloc tables
            ((netloc ++ path ++ queryPart query).takeWhile (fun c => !isDelimiter c)) then
        some (splitTail scheme
          ((netloc ++ path ++ queryPart query).takeWhile (fun c => !isDelimiter c))
          ((netloc ++ path ++ queryPart query).dropWhile (fun c => !isDelimiter c)))
      else none := by
  have hfilter : (urlunsplit scheme netloc path query).filter (fun c => !isRemoved c) =
      urlunsplit scheme netloc path query :=
    List.filter_eq_self.2 fun c hc => by rw [hkept c hc, Bool.not_false]
  have hdrop : (urlunsplit scheme netloc path query).dropWhile (fun c => c.toNat ≤ 0x20) =
      urlunsplit scheme netloc path query := by
    rcases hscheme with rfl | rfl <;> rfl
  have hsplit : splitScheme (urlunsplit scheme netloc path query) =
      (scheme, '/' :: '/' :: (netloc ++ path ++ queryPart query)) := by
    have hcolon : ':' ∉ scheme := by
      rcases hscheme with rfl | rfl <;> decide
    unfold splitScheme urlunsplit
    rw [before_append hcolon, after_append hcolon, if_pos]
    · rcases hscheme with rfl | rfl <;> rfl
    · refine ⟨List.mem_append_right _ List.mem_cons_self, ?_⟩
      rcases hscheme with rfl | rfl <;> decide
  have hslashes : ('/' :: '/' :: (netloc ++ path ++ queryPart query)).take 2 = ['/', '/'] := rfl
  unfold urlsplit
  simp only [hdrop, hfilter, hsplit]
  rw [if_pos hslashes]
  simp only [List.drop_succ_cons, List.drop_zero]

theorem isRemoved_urlunsplit (hscheme : scheme = "http".toList ∨ scheme = "https".toList)
    (hkept : ∀ c ∈ netloc ++ path ++ query, isRemoved c = false) :
    ∀ c ∈ urlunsplit scheme netloc path query, isRemoved c = false := by
  intro c hc
  have hparts : c ∈ scheme ++ [':', '/', '/', '?'] ∨ c ∈ netloc ++ path ++ query := by
    simp only [urlunsplit, queryPart, List.mem_append, List.mem_cons] at hc ⊢
    rcases hc with hc | rfl | rfl | rfl | (hc | hc) | hc
    · exact .inl (.inl hc)
    · exact .inl (.inr (.inl rfl))
    · exact .inl (.inr (.inr (.inl rfl)))
    · exact .inl (.inr (.inr (.inl rfl)))
    · exact .inr (.inl (.inl hc))
    · exact .inr (.inl (.inr hc))
    · split at hc
      · cases hc
      · rcases List.mem_cons.1 hc with rfl | hc
        · exact .inl (.inr (.inr (.inr (.inr (.inl rfl)))))
        · exact .inr (.inr hc)
  have hhttp : ∀ c ∈ "http".toList ++ [':', '/', '/', '?'], isRemoved c = false := by
    simp [isRemoved]
  have hhttps : ∀ c ∈ "https".toList ++ [':', '/', '/', '?'], isRemoved c = false := by
    simp [isRemoved]
  rcases hparts with h | h
  · rcases hscheme with rfl | rfl
    · exact hhttp c h
    · exact hhttps c h
  · exact hkept c h

/-- A URL is cut where it was put together. -/
theorem urlsplit_urlunsplit (hscheme : scheme = "http".toList ∨ scheme = "https".toList)
    (hnetloc : ∀ c ∈ netloc, isDelimiter c = false) (hhead : path.head? = some '/')
    (hpath : ∀ c ∈ path, c ≠ '?' ∧ c ≠ '#') (hquery : '#' ∉ query)
    (hkept : ∀ c ∈ netloc ++ path ++ query, isRemoved c = false) :
    urlsplit tables (urlunsplit scheme netloc path query) =
      if checkBrackets tables netloc && checkNetloc tables netloc then
        some ⟨scheme, netloc, path, query, []⟩
      else none := by
  have htail : ∃ rest, path = '/' :: rest := by
    cases path with
    | nil => cases hhead
    | cons c rest => exact ⟨rest, by cases hhead; rfl⟩
  obtain ⟨rest, hrest⟩ := htail
  have hnet : ∀ c ∈ netloc, (!isDelimiter c) = true := fun c hc => by
    rw [hnetloc c hc, Bool.not_false]
  have htake : (netloc ++ path ++ queryPart query).takeWhile (fun c => !isDelimiter c) =
      netloc := by
    rw [hrest, List.append_assoc, List.cons_append, List.takeWhile_append_of_pos hnet]
    simp [isDelimiter]
  have hafter : (netloc ++ path ++ queryPart query).dropWhile (fun c => !isDelimiter c) =
      path ++ queryPart query := by
    rw [hrest, List.append_assoc, List.cons_append, List.dropWhile_append_of_pos hnet]
    simp [isDelimiter]
  rw [urlsplit_kept hscheme (isRemoved_urlunsplit hscheme hkept), htake, hafter,
    splitTail_path hpath hquery]

theorem checkNetloc_ascii (h : ∀ c ∈ netloc, isAscii c = true) :
    checkNetloc tables netloc = true := by
  simp only [checkNetloc, List.all_eq_true.2 h, Bool.true_or]

/-- A character of a host that is read back. -/
def isHostChar (c : Char) : Bool :=
  isAscii c && c.toLower == c && !isDelimiter c && c != '@' && c != ']' && c != '%' && c != '\\' &&
    !Python.isControl c

/-- A host that is read back. -/
structure HostText (tables : Tables) (host : Text) : Prop where
  nonempty : host ≠ []
  chars : ∀ c ∈ host, isHostChar c = true
  brackets : ':' ∈ host → checkBracketedHost tables host = true
  plain : ':' ∉ host → '[' ∉ host

theorem isHostChar_digit {c : Char} (h : c.isDigit = true) :
    isHostChar c = true ∧ c ≠ ':' ∧ c ≠ '[' := by
  have hascii : isAscii c = true := by
    have hbounds : 48 ≤ c.toNat ∧ c.toNat ≤ 57 := by
      simpa [Char.isDigit, UInt32.le_iff_toNat_le] using h
    exact decide_eq_true (by omega)
  revert h
  exact of_isAscii (P := fun c => c.isDigit = true → isHostChar c = true ∧ c ≠ ':' ∧ c ≠ '[')
    (by decide) hascii

theorem HostText.notMem (h : HostText tables host) {c : Char} (hc : isHostChar c = false) :
    c ∉ host := fun hmem => by
  rw [h.chars c hmem] at hc
  cases hc

/-- The port with its colon. -/
def portPart (port : Option Nat) : Text := port.elim [] fun n => ':' :: number n

theorem mem_portPart {c : Char} (h : c ∈ portPart port) : c = ':' ∨ c.isDigit = true := by
  cases port with
  | none => cases h
  | some n =>
    rcases List.mem_cons.1 h with rfl | h
    · exact .inl rfl
    · exact .inr (Nat.isDigit_of_mem_toDigits (by decide) (by decide) h)

theorem notMem_portPart {c : Char} (hc : c ≠ ':') (hdigit : c.isDigit = false) :
    c ∉ portPart port := fun h => by
  rcases mem_portPart h with h | h
  · exact hc h
  · rw [h] at hdigit
    cases hdigit

theorem after_portPart : after ':' (portPart port) = port.elim [] number := by
  cases port with
  | none => rfl
  | some n => exact after_cons ':' _

/-- The authority in parts, as it is taken apart. -/
theorem authority_cases (host : Text) (port : Option Nat) :
    authority host port =
      if ':' ∈ host then '[' :: (host ++ ']' :: portPart port) else host ++ portPart port := by
  unfold authority bracketed portPart
  split
  · rw [List.append_assoc, List.cons_append]
    rfl
  · rfl

theorem mem_authority {c : Char} (h : c ∈ authority host port) :
    c ∈ host ∨ c = '[' ∨ c = ']' ∨ c ∈ portPart port := by
  rw [authority_cases] at h
  split at h
  · simp only [List.mem_cons, List.mem_append] at h
    rcases h with rfl | h | rfl | h
    · exact .inr (.inl rfl)
    · exact .inl h
    · exact .inr (.inr (.inl rfl))
    · exact .inr (.inr (.inr h))
  · rcases List.mem_append.1 h with h | h
    · exact .inl h
    · exact .inr (.inr (.inr h))

theorem HostText.notMem_authority (h : HostText tables host) {c : Char}
    (hc : isHostChar c = false) (hbracket : c ≠ ']') : c ∉ authority host port := by
  intro hmem
  rcases mem_authority hmem with hmem | rfl | rfl | hmem
  · exact h.notMem hc hmem
  · exact absurd hc (by decide)
  · exact hbracket rfl
  · rcases mem_portPart hmem with rfl | hdigit
    · exact absurd hc (by decide)
    · rw [(isHostChar_digit hdigit).1] at hc
      cases hc

theorem HostText.hostinfo_eq (h : HostText tables host) :
    hostinfo (authority host port) = (host, port.elim [] number) := by
  have hat : '@' ∉ authority host port := h.notMem_authority (by decide) (by decide)
  have hclose : ']' ∉ host := h.notMem (by decide)
  unfold Urls.hostinfo
  rw [afterLast_of_notMem hat, authority_cases]
  by_cases hcolon : ':' ∈ host
  · rw [if_pos hcolon, if_pos List.mem_cons_self]
    rw [after_cons, before_append hclose, after_append hclose, after_portPart]
  · have hopen : '[' ∉ host ++ portPart port := by
      rw [List.mem_append]
      rintro (hmem | hmem)
      · exact h.plain hcolon hmem
      · exact notMem_portPart (by decide) (by decide) hmem
    rw [if_neg hcolon, if_neg hopen]
    cases port with
    | none => rw [portPart, Option.elim_none, List.append_nil, before_of_notMem hcolon,
        after_of_notMem hcolon]; rfl
    | some n =>
      rw [portPart, Option.elim_some, before_append hcolon, after_append hcolon]
      rfl

theorem HostText.checkBrackets (h : HostText tables host) :
    checkBrackets tables (authority host port) = true := by
  have hat : '@' ∉ authority host port := h.notMem_authority (by decide) (by decide)
  have hclose : ']' ∉ host := h.notMem (by decide)
  unfold Urls.checkBrackets
  by_cases hcolon : ':' ∈ host
  · have hauthority : authority host port = '[' :: (host ++ ']' :: portPart port) := by
      rw [authority_cases, if_pos hcolon]
    have hmem : '[' ∈ authority host port ∧ ']' ∈ authority host port := by
      rw [hauthority]
      exact ⟨List.mem_cons_self,
        List.mem_cons_of_mem _ (List.mem_append_right _ List.mem_cons_self)⟩
    have hport : (portPart port == [] || (portPart port).head? == some ':') = true := by
      cases port <;> rfl
    rw [if_pos (.inl hmem.1), decide_eq_true hmem.1, decide_eq_true hmem.2, Bool.true_and,
      Bool.true_and]
    simp only [checkBracketedNetloc]
    rw [afterLast_of_notMem hat, if_pos hmem.1, hauthority,
      after_cons, before_append hclose, after_append hclose, before_cons, hport,
      h.brackets hcolon]
    rfl
  · rw [if_neg]
    rw [authority_cases, if_neg hcolon]
    simp only [List.mem_append, not_or]
    exact ⟨⟨h.plain hcolon, notMem_portPart (by decide) (by decide)⟩, hclose,
      notMem_portPart (by decide) (by decide)⟩

theorem HostText.ascii (h : HostText tables host) : host.all isAscii = true := by
  refine List.all_eq_true.2 fun c hc => ?_
  have hchar := h.chars c hc
  simp only [isHostChar, Bool.and_eq_true] at hchar
  exact hchar.1.1.1.1.1.1.1

theorem HostText.map_toLower (h : HostText tables host) : host.map Char.toLower = host := by
  rw [List.map_congr_left, List.map_id]
  intro c hc
  have hchar := h.chars c hc
  simp only [isHostChar, Bool.and_eq_true, beq_iff_eq] at hchar
  rw [id_eq]
  exact hchar.1.1.1.1.1.1.2

variable {s : SplitResult}

theorem HostText.hostname_eq (h : HostText tables host) (hs : s.netloc = authority host port) :
    s.hostname tables = some host := by
  have hpercent : '%' ∉ host := h.notMem (by decide)
  have hdrop : host.dropWhile (· != '%') = [] := by
    rw [List.dropWhile_eq_nil_iff]
    intro c hc
    rw [bne_iff_ne]
    exact fun hcp => hpercent (hcp ▸ hc)
  unfold SplitResult.hostname
  rw [hs, h.hostinfo_eq, if_neg h.nonempty, before_of_notMem hpercent, hdrop, List.append_nil, lower,
    if_pos h.ascii, h.map_toLower]

theorem HostText.port_eq (h : HostText tables host) (hs : s.netloc = authority host port)
    (hport : ∀ n ∈ port, n ≤ 65535) : s.port = some port := by
  unfold SplitResult.port
  rw [hs, h.hostinfo_eq]
  cases port with
  | none => rfl
  | some n =>
    have hdigits : (number n).all Char.isDigit = true := List.all_eq_true.2 fun c hc =>
      Nat.isDigit_of_mem_toDigits (by decide) (by decide) hc
    have hne : number n ≠ [] := by
      intro hnil
      have hpos : 0 < (Nat.toDigits 10 n).length := Nat.length_toDigits_pos
      rw [show Nat.toDigits 10 n = number n from rfl, hnil] at hpos
      exact absurd hpos (Nat.lt_irrefl 0)
    have hvalue : Nat.ofDigitChars 10 (number n) 0 = n := Nat.ofDigitChars_ten_toDigits
    simp only [Option.elim_some, if_neg hne, hvalue]
    rw [if_pos ⟨hdigits, hport n rfl⟩]

end ReadingBack

section Read

variable {tables : Tables} {url : Text} {s : SplitResult}

/-- The parts of a URL with an authority. -/
structure SplitResult.WellCut (tables : Tables) (url : Text) (s : SplitResult) : Prop where
  netloc : ∀ c ∈ s.netloc, isDelimiter c = false
  brackets : checkBrackets tables s.netloc = true
  path : ∀ c ∈ s.path, c ≠ '?' ∧ c ≠ '#'
  query : '#' ∉ s.query
  rooted : s.netloc ≠ [] → s.path = [] ∨ s.path.head? = some '/'
  chars : ∀ c ∈ s.netloc ++ s.path ++ s.query, c ∈ url ∧ isRemoved c = false

theorem mem_splitScheme {c : Char} (h : c ∈ (splitScheme url).2) : c ∈ url := by
  unfold splitScheme at h
  dsimp only at h
  split at h
  · exact mem_after h
  · exact h

theorem mem_splitTail {scheme netloc rest : Text} {c : Char}
    (h : c ∈ (splitTail scheme netloc rest).path ++ (splitTail scheme netloc rest).query) :
    c ∈ rest := by
  rcases List.mem_append.1 h with h | h
  · exact (mem_before (mem_before h).1).1
  · exact (mem_before (mem_after h)).1

theorem splitTail_path_query (scheme netloc rest : Text) :
    (∀ c ∈ (splitTail scheme netloc rest).path, c ≠ '?' ∧ c ≠ '#') ∧
      '#' ∉ (splitTail scheme netloc rest).query :=
  ⟨fun _ hc => ⟨(mem_before hc).2, (mem_before (mem_before hc).1).2⟩,
    fun h => notMem_before '#' rest (mem_after h)⟩

theorem wellCut_of_urlsplit (h : urlsplit tables url = some s) : s.WellCut tables url := by
  have hchars : ∀ c ∈ (splitScheme ((url.dropWhile (fun c => c.toNat ≤ 0x20)).filter
      (fun c => !isRemoved c))).2, c ∈ url ∧ isRemoved c = false := by
    intro c hc
    obtain ⟨hmem, hkept⟩ := List.mem_filter.1 (mem_splitScheme hc)
    exact ⟨(List.dropWhile_suffix _).mem hmem, by simpa using hkept⟩
  unfold urlsplit at h
  simp only at h
  generalize hrest : splitScheme ((url.dropWhile (fun c => c.toNat ≤ 0x20)).filter
    (fun c => !isRemoved c)) = parts at h hchars
  obtain ⟨scheme, rest⟩ := parts
  have hdrop : ∀ c ∈ (rest.drop 2).takeWhile (fun c => !isDelimiter c) ++
      (rest.drop 2).dropWhile (fun c => !isDelimiter c), c ∈ url ∧ isRemoved c = false := by
    intro c hc
    rw [List.takeWhile_append_dropWhile] at hc
    exact hchars c (List.mem_of_mem_drop hc)
  split at h
  · split at h
    · rename_i hchecks
      rw [Bool.and_eq_true] at hchecks
      cases h
      obtain ⟨hpath, hquery⟩ := splitTail_path_query scheme
        ((rest.drop 2).takeWhile (fun c => !isDelimiter c))
        ((rest.drop 2).dropWhile (fun c => !isDelimiter c))
      refine ⟨fun c hc => by simpa using List.mem_takeWhile_imp hc, hchecks.1, hpath, hquery,
        fun _ => ?_, fun c hc => ?_⟩
      · -- what follows the authority starts with a delimiter
        cases htail : (rest.drop 2).dropWhile (fun c => !isDelimiter c) with
        | nil => exact .inl rfl
        | cons d more =>
          have hd : isDelimiter d = true := by
            have hhead := List.head?_dropWhile_not (fun c => !isDelimiter c) (rest.drop 2)
            rw [htail] at hhead
            simpa using hhead
          simp only [isDelimiter, Bool.or_eq_true, decide_eq_true_eq] at hd
          rcases hd with (rfl | rfl) | rfl
          · exact .inr rfl
          · exact .inl rfl
          · exact .inl rfl
      · rw [List.append_assoc] at hc
        rcases List.mem_append.1 hc with hc | hc
        · exact hdrop c (List.mem_append_left _ hc)
        · exact hdrop c (List.mem_append_right _ (mem_splitTail hc))
    · cases h
  · cases h
    obtain ⟨hpath, hquery⟩ := splitTail_path_query scheme [] rest
    refine ⟨fun c hc => absurd hc List.not_mem_nil, rfl, hpath, hquery, fun hne => absurd rfl hne,
      fun c hc => ?_⟩
    exact hchars c (mem_splitTail hc)

theorem mem_hostinfo {netloc : Text} {c : Char} (h : c ∈ (hostinfo netloc).1) : c ∈ netloc := by
  unfold hostinfo at h
  simp only at h
  split at h
  · exact mem_afterLast (mem_after (mem_before h).1)
  · exact mem_afterLast (mem_before h).1

theorem netloc_ne_nil {host : Text} (h : s.hostname tables = some host) : s.netloc ≠ [] := by
  intro hnil
  unfold SplitResult.hostname at h
  rw [hnil] at h
  cases h

end Read

end MediaSync.Urls
