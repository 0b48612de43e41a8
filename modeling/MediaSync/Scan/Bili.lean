import Mathlib.Order.MinMax
import Mathlib.Algebra.Ring.Nat
import Mathlib.Data.List.Pairwise
import Mathlib.Data.List.Chain
import Mathlib.Order.Basic

/-!
# The bounded scan of ordinary Bili uploads

One unit makes at most two list requests and a limited number of detail
requests in one of two lanes, and proposes the state the next unit starts from.
A page that a lane is in the middle of is kept as its witness; before the lane
leaves the page, the page is listed again and must still be the same.
-/

namespace MediaSync.Scan

/-- `ValueError` of the scan contract, an index out of range, and a loop that
was given too few turns. -/
inductive ScanError where
  | invalid | index | unfinished
  deriving DecidableEq, Repr

def biliScanPageSize : Nat := 30

/-- `_integer(value, 1, 253_402_300_799)`. -/
abbrev Pubdate := { n : Nat // 1 ≤ n ∧ n ≤ 253402300799 }

instance : Max Pubdate := inferInstance

def isDigit (c : Char) : Bool := '0' ≤ c && c ≤ '9'

def isAsciiAlphanum (c : Char) : Bool :=
  isDigit c || ('A' ≤ c && c ≤ 'Z') || ('a' ≤ c && c ≤ 'z')

def decimalValue (digits : List Char) : Nat :=
  digits.foldl (fun n c => 10 * n + (c.toNat - '0'.toNat)) 0

/-- `[1-9][0-9]{0,18}`, at most `2**63 - 1`. -/
def validAid (aid : String) : Bool :=
  match aid.toList with
  | [] => false
  | c :: rest =>
    '1' ≤ c && c ≤ '9' && rest.length ≤ 18 && rest.all isDigit &&
      decimalValue (c :: rest) ≤ 2 ^ 63 - 1

/-- `BV[0-9A-Za-z]{10}`. -/
def validBvid (bvid : String) : Bool :=
  match bvid.toList with
  | 'B' :: 'V' :: rest => rest.length = 10 && rest.all isAsciiAlphanum
  | _ => false

structure BiliIdentity where
  aid : String
  bvid : String
  pubdate : Pubdate
  valid : validAid aid = true ∧ validBvid bvid = true
  deriving DecidableEq

/-- Newer items first. -/
def NewerFirst (x y : BiliIdentity) : Prop := y.pubdate ≤ x.pubdate

instance : DecidableRel NewerFirst := fun x y => inferInstanceAs (Decidable (y.pubdate ≤ x.pubdate))

instance : IsTrans BiliIdentity NewerFirst where
  trans _ _ _ hxy hyz := le_trans hyz hxy

/-- `BiliPage.__post_init__`. -/
structure BiliPage.Valid (page total : Nat) (identities : List BiliIdentity) : Prop where
  pageRange : 1 ≤ page ∧ page ≤ 10000000
  totalRange : total ≤ 300000000
  length : identities.length =
    min biliScanPageSize (total - (page - 1) * biliScanPageSize)
  aids : (identities.map BiliIdentity.aid).Nodup
  bvids : (identities.map BiliIdentity.bvid).Nodup
  sorted : identities.IsChain NewerFirst

instance (page total : Nat) (identities : List BiliIdentity) :
    Decidable (BiliPage.Valid page total identities) :=
  decidable_of_iff
    ((1 ≤ page ∧ page ≤ 10000000) ∧ total ≤ 300000000 ∧
      identities.length = min biliScanPageSize (total - (page - 1) * biliScanPageSize) ∧
      (identities.map BiliIdentity.aid).Nodup ∧ (identities.map BiliIdentity.bvid).Nodup ∧
      identities.IsChain NewerFirst)
    ⟨fun ⟨h1, h2, h3, h4, h5, h6⟩ => ⟨h1, h2, h3, h4, h5, h6⟩,
      fun h => ⟨h.pageRange, h.totalRange, h.length, h.aids, h.bvids, h.sorted⟩⟩

structure BiliPage where
  page : Nat
  total : Nat
  identities : List BiliIdentity
  valid : BiliPage.Valid page total identities
  deriving DecidableEq

namespace BiliPage

def make (page total : Nat) (identities : List BiliIdentity) : Except ScanError BiliPage :=
  if h : Valid page total identities then .ok ⟨page, total, identities, h⟩ else .error .invalid

def sourceEnd (p : BiliPage) : Bool := p.page * biliScanPageSize ≥ p.total

end BiliPage

/-- `BiliLane.__post_init__`. -/
structure BiliLane.Valid (page : Nat) (witness : Option BiliPage) (index : Nat)
    (previousPubdate : Option Pubdate) : Prop where
  pageRange : 1 ≤ page ∧ page ≤ 10000000
  indexRange : index ≤ biliScanPageSize
  fits : ∀ w ∈ witness, w.page = page ∧ index ≤ w.identities.length
  unseen : witness = none → index = 0
  first : page = 1 ↔ previousPubdate = none

instance (page : Nat) (witness : Option BiliPage) (index : Nat)
    (previousPubdate : Option Pubdate) :
    Decidable (BiliLane.Valid page witness index previousPubdate) :=
  decidable_of_iff
    ((1 ≤ page ∧ page ≤ 10000000) ∧ index ≤ biliScanPageSize ∧
      (∀ w ∈ witness, w.page = page ∧ index ≤ w.identities.length) ∧
      (witness = none → index = 0) ∧ (page = 1 ↔ previousPubdate = none))
    ⟨fun ⟨h1, h2, h3, h4, h5⟩ => ⟨h1, h2, h3, h4, h5⟩,
      fun h => ⟨h.pageRange, h.indexRange, h.fits, h.unseen, h.first⟩⟩

structure BiliLane where
  page : Nat
  witness : Option BiliPage
  index : Nat
  previousPubdate : Option Pubdate
  valid : BiliLane.Valid page witness index previousPubdate
  deriving DecidableEq

namespace BiliLane

/-- `BiliLane()`. -/
def start : BiliLane := ⟨1, none, 0, none, by decide⟩

def make (page : Nat) (witness : Option BiliPage) (index : Nat)
    (previousPubdate : Option Pubdate) : Except ScanError BiliLane :=
  if h : Valid page witness index previousPubdate then
    .ok ⟨page, witness, index, previousPubdate, h⟩
  else .error .invalid

end BiliLane

inductive BiliLaneName where
  | head | history
  deriving DecidableEq, Repr

inductive BiliReason where
  | itemLimit | listLimit | restarted | sourceEnd | headBoundary
  deriving DecidableEq, Repr

/-- `BiliUnitSummary.__post_init__`. -/
structure BiliUnitSummary.Valid (itemCount listAttempts detailAttempts : Nat) : Prop where
  items : itemCount ≤ biliScanPageSize
  lists : listAttempts ≤ 2
  details : detailAttempts = itemCount

instance (itemCount listAttempts detailAttempts : Nat) :
    Decidable (BiliUnitSummary.Valid itemCount listAttempts detailAttempts) :=
  decidable_of_iff
    (itemCount ≤ biliScanPageSize ∧ listAttempts ≤ 2 ∧ detailAttempts = itemCount)
    ⟨fun ⟨h1, h2, h3⟩ => ⟨h1, h2, h3⟩, fun h => ⟨h.items, h.lists, h.details⟩⟩

structure BiliUnitSummary where
  lane : BiliLaneName
  stopReason : BiliReason
  itemCount : Nat
  listAttempts : Nat
  detailAttempts : Nat
  valid : BiliUnitSummary.Valid itemCount listAttempts detailAttempts
  deriving DecidableEq

/-- What binds a scan to its account, creator and checkout; no unit reads it. -/
structure BiliBinding where
  accountId : String
  authorFingerprintSha256 : String
  upstreamSha : String
  deriving DecidableEq, Repr

structure BiliScanState where
  binding : BiliBinding
  nextLane : BiliLaneName
  head : BiliLane
  history : BiliLane
  headBoundary : Option Pubdate
  headCandidate : Option Pubdate
  lastUnit : Option BiliUnitSummary
  deriving DecidableEq

def BiliScanState.initial (binding : BiliBinding) : BiliScanState :=
  ⟨binding, .head, .start, .start, none, none, none⟩

def BiliScanState.laneOf (s : BiliScanState) : BiliLaneName → BiliLane
  | .head => s.head
  | .history => s.history

def otherLane : BiliLaneName → BiliLaneName
  | .head => .history
  | .history => .head

inductive BiliScanAction where
  | stop
  | list (page : Nat)
  | detail (identity : BiliIdentity)
  deriving DecidableEq

/-! ## One unit -/

structure BiliScanUnit where
  limit : Nat
  inputState : BiliScanState
  state : BiliScanState
  lane : BiliLaneName
  pages : List BiliPage
  consumed : List BiliIdentity
  reason : Option BiliReason
  verified : Bool
  deriving DecidableEq

structure BiliScanCoverage where
  inputState : BiliScanState
  nextState : BiliScanState
  consumed : List BiliIdentity
  pages : List BiliPage
  summary : BiliUnitSummary
  deriving DecidableEq

/-- The fields that `BiliScanUnit.__init__` sets. -/
def BiliScanUnit.fresh (state : BiliScanState) (maxItems : Nat) : BiliScanUnit :=
  ⟨min maxItems biliScanPageSize, state, state, state.nextLane, [], [], none, false⟩

/-- `BiliScanUnit(state, max_items)`. -/
def BiliScanUnit.new (state : BiliScanState) (maxItems : Nat) : Except ScanError BiliScanUnit :=
  if 1 ≤ maxItems ∧ maxItems ≤ 2 ^ 63 - 1 then .ok (.fresh state maxItems) else .error .invalid

namespace BiliScanUnit

def current (u : BiliScanUnit) : BiliLane := u.state.laneOf u.lane

/-- `_set_lane`. -/
def setLane (u : BiliScanUnit) (lane : BiliLane) : BiliScanUnit :=
  match u.lane with
  | .head => { u with state := { u.state with head := lane } }
  | .history => { u with state := { u.state with history := lane } }

def stopped (u : BiliScanUnit) (reason : BiliReason) : BiliScanUnit :=
  { u with reason := some reason }

/-- The boundary moves up to the newest item of the sweep. -/
def raiseBoundary (u : BiliScanUnit) : BiliScanUnit :=
  match u.lane with
  | .head =>
    let candidates := [u.state.headBoundary, u.state.headCandidate].reduceOption
    { u with state := { u.state with headBoundary := candidates.max?, headCandidate := none } }
  | .history => u

/-- `_finish_sweep`. -/
def finishSweep (u : BiliScanUnit) (reason : BiliReason) : BiliScanUnit :=
  ((u.setLane .start).raiseBoundary).stopped reason

/-- The page changed under the lane: it starts again. -/
def restart (u : BiliScanUnit) : BiliScanUnit :=
  match u.lane with
  | .head =>
    ({ u.setLane .start with
      state := { (u.setLane .start).state with headCandidate := none } }).stopped .restarted
  | .history => (u.setLane .start).stopped .restarted

/-- `witness.identities[current.index]`, where there is one. -/
def pending (u : BiliScanUnit) : Option BiliIdentity :=
  u.current.witness.bind (fun w => w.identities[u.current.index]?)

/-- The item is older than everything the previous head sweeps began with. -/
def belowBoundary (u : BiliScanUnit) (identity : BiliIdentity) : Bool :=
  match u.lane, u.state.headBoundary with
  | .head, some boundary => identity.pubdate < boundary
  | _, _ => false

/-- The end of `next_action`: list the current page, unless two lists were made. -/
def listing (u : BiliScanUnit) : BiliScanAction × BiliScanUnit :=
  if u.pages.length = 2 then (.stop, u.stopped .listLimit) else (.list u.current.page, u)

/-- The lane moves on to the page after its witness. -/
def nextPage (u : BiliScanUnit) (witness : BiliPage) : Except ScanError BiliScanUnit :=
  match witness.identities.getLast? with
  | none => .error .index
  | some last => do
    let lane ← BiliLane.make (u.current.page + 1) none 0 (some last.pubdate)
    .ok { u.setLane lane with verified := false }

/-- The lane stands at an item of its witness. -/
def atItem (u : BiliScanUnit) (identity : BiliIdentity) : BiliScanAction × BiliScanUnit :=
  if u.belowBoundary identity then
    if u.verified then (.stop, u.finishSweep .headBoundary) else u.listing
  else (.detail identity, u)

/-- The lane is through with its witness. -/
def atPageEnd (u : BiliScanUnit) (witness : BiliPage) :
    Except ScanError (BiliScanAction × BiliScanUnit) :=
  if u.verified then
    if witness.sourceEnd then .ok (.stop, u.finishSweep .sourceEnd)
    else if u.pages.length = 2 then .ok (.stop, u.stopped .listLimit)
    else do
      let u ← u.nextPage witness
      .ok u.listing
  else .ok u.listing

def nextAction (u : BiliScanUnit) : Except ScanError (BiliScanAction × BiliScanUnit) :=
  if u.reason.isSome then .ok (.stop, u)
  else if u.consumed.length = u.limit then .ok (.stop, u.stopped .itemLimit)
  else match u.pending, u.current.witness with
    | some identity, _ => .ok (u.atItem identity)
    | none, some witness => u.atPageEnd witness
    | none, none => .ok u.listing

/-- A page that the lane sees for the first time. -/
def newPage (u : BiliScanUnit) (page : BiliPage) : Except ScanError BiliScanUnit := do
  let lane ← BiliLane.make u.current.page (some page) u.current.index u.current.previousPubdate
  let u := u.setLane lane
  let candidate : Option Pubdate :=
    match u.lane, page.identities with
    | .head, newest :: _ =>
      some ((u.state.headCandidate.map (max · newest.pubdate)).getD newest.pubdate)
    | _, _ => u.state.headCandidate
  .ok { u with
    state := { u.state with headCandidate := candidate },
    verified := page.identities.isEmpty }

/-- The new page begins after the end of the page before it. -/
def disordered (u : BiliScanUnit) (page : BiliPage) : Bool :=
  match u.current.previousPubdate, page.identities with
  | some previous, newest :: _ => newest.pubdate > previous
  | _, _ => false

/-- `self.pages.append(page)`. -/
def listed (u : BiliScanUnit) (page : BiliPage) : BiliScanUnit :=
  { u with pages := u.pages ++ [page] }

/-- `observe_page`, once the action fits. -/
def observed (u : BiliScanUnit) (page : BiliPage) : Except ScanError BiliScanUnit :=
  match u.current.witness with
  | some witness =>
    .ok (if page ≠ witness then (u.listed page).restart else { u.listed page with verified := true })
  | none => if u.disordered page then .ok (u.listed page).restart else (u.listed page).newPage page

def observePage (u : BiliScanUnit) (page : BiliPage) : Except ScanError BiliScanUnit := do
  let (action, u) ← u.nextAction
  if action = .list page.page then u.observed page else .error .invalid

/-- `consume`, once the action fits. -/
def consumeNext (u : BiliScanUnit) (identity : BiliIdentity) : Except ScanError BiliScanUnit := do
  if identity.aid ∈ u.consumed.map BiliIdentity.aid ∨
      identity.bvid ∈ u.consumed.map BiliIdentity.bvid then .error .invalid
  else do
    let lane ← BiliLane.make u.current.page u.current.witness (u.current.index + 1)
      u.current.previousPubdate
    .ok ({ u with consumed := u.consumed ++ [identity] }.setLane lane)

def consume (u : BiliScanUnit) (identity : BiliIdentity) : Except ScanError BiliScanUnit := do
  let (action, u) ← u.nextAction
  if action = .detail identity then u.consumeNext identity else .error .invalid

def coverage (u : BiliScanUnit) : Except ScanError BiliScanCoverage := do
  let (action, u) ← u.nextAction
  match action, u.reason with
  | .stop, some reason =>
    if h : BiliUnitSummary.Valid u.consumed.length u.pages.length u.consumed.length then
      let summary : BiliUnitSummary := ⟨u.lane, reason, _, _, _, h⟩
      .ok ⟨u.inputState,
        { u.state with nextLane := otherLane u.lane, lastUnit := some summary },
        u.consumed, u.pages, summary⟩
    else .error .invalid
  | _, _ => .error .invalid

/-- The loop of `validate`: the actions of the unit, answered from the record. -/
def replay : Nat → List BiliPage → List BiliIdentity → BiliScanUnit → Except ScanError BiliScanUnit
  | 0, _, _, _ => .error .unfinished
  | turns + 1, pages, consumed, u => do
    let (action, u) ← u.nextAction
    match action with
    | .stop => if pages = [] ∧ consumed = [] then .ok u else .error .invalid
    | .list _ =>
      match pages with
      | [] => .error .invalid
      | page :: pages => do
        let u ← u.observePage page
        replay turns pages consumed u
    | .detail _ =>
      match consumed with
      | [] => .error .invalid
      | identity :: consumed => do
        let u ← u.consume identity
        replay turns pages consumed u

/-- Two lists, as many details as the limit, and the stop. -/
def turns (u : BiliScanUnit) : Nat := u.limit + 3

end BiliScanUnit

/-- `BiliScanCoverage.validate`. -/
def BiliScanCoverage.validate (c : BiliScanCoverage) (inputState : BiliScanState)
    (maxItems : Nat) : Except ScanError Unit :=
  if c.inputState ≠ inputState ∨ c.pages.length > 2 ∨
      c.consumed.length > min maxItems biliScanPageSize then .error .invalid
  else do
    let u ← BiliScanUnit.new inputState maxItems
    let u ← BiliScanUnit.replay u.turns c.pages c.consumed u
    let again ← u.coverage
    if again = c then .ok () else .error .invalid

/-- The uploads of one creator, newest first. -/
structure BiliFeed where
  items : List BiliIdentity
  aids : (items.map BiliIdentity.aid).Nodup
  bvids : (items.map BiliIdentity.bvid).Nodup
  sorted : items.Pairwise NewerFirst
  bounded : items.length ≤ 300000000

/-- The page of a feed, as the list response shows it. -/
def BiliFeed.page (f : BiliFeed) (page : Nat) : Except ScanError BiliPage :=
  BiliPage.make page f.items.length
    ((f.items.drop ((page - 1) * biliScanPageSize)).take biliScanPageSize)

namespace BiliScanUnit

/-- The capture loop: each list request is answered by the feed as it is then,
every detail request succeeds. -/
def drive (serve : Nat → BiliFeed) : Nat → BiliScanUnit → Except ScanError BiliScanUnit
  | 0, _ => .error .unfinished
  | turns + 1, u => do
    let (action, u) ← u.nextAction
    match action with
    | .stop => .ok u
    | .list page => do
      let page ← (serve u.pages.length).page page
      let u ← u.observePage page
      drive serve turns u
    | .detail identity => do
      let u ← u.consume identity
      drive serve turns u

end BiliScanUnit

/-- One unit from its state to the coverage that its validation accepts. -/
def runBiliUnit (serve : Nat → BiliFeed) (state : BiliScanState) (maxItems : Nat) :
    Except ScanError BiliScanCoverage := do
  let u ← BiliScanUnit.new state maxItems
  let u ← BiliScanUnit.drive serve u.turns u
  let coverage ← u.coverage
  coverage.validate state maxItems
  .ok coverage

end MediaSync.Scan
