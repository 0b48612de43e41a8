import Mathlib.Data.List.Nodup
import Mathlib.Data.List.ReduceOption
import Mathlib.Order.MinMax
import MediaSync.Foundation.Transition
import MediaSync.Scan.BiliHistory

/-!
# A head sweep skips nothing new

The feed grows at its front while units run over it. A head sweep keeps what it
saw first: of the items that were there when it listed the first page, those
that come before its place in some later feed have been consumed. A page that
is listed later begins at or before that place, since new items only push the
old ones back.
-/

namespace MediaSync.Scan

open BiliScanUnit Transition

/-- New uploads stand in front. -/
def BiliFeed.Grows (f g : BiliFeed) : Prop := f.items <:+ g.items

namespace BiliFeed

variable {f g h : BiliFeed} {x y : BiliIdentity}

theorem Grows.refl (f : BiliFeed) : f.Grows f := List.suffix_rfl

theorem Grows.trans (hfg : f.Grows g) (hgh : g.Grows h) : f.Grows h := List.IsSuffix.trans hfg hgh

theorem Grows.mem (hfg : f.Grows g) (hx : x ∈ f.items) : x ∈ g.items := hfg.subset hx

theorem nodup (f : BiliFeed) : f.items.Nodup := List.Nodup.of_map _ f.aids

/-- Pushed back, an old item comes no earlier. -/
theorem Grows.take (hfg : f.Grows g) {m : Nat} (hx : x ∈ f.items) (hm : x ∈ g.items.take m) :
    x ∈ f.items.take m := by
  obtain ⟨new, hnew⟩ := hfg
  have hnodup := g.nodup
  rw [← hnew, List.nodup_append] at hnodup
  rw [← hnew, List.take_append] at hm
  rcases List.mem_append.mp hm with hm | hm
  · exact (hnodup.2.2 x (List.mem_of_mem_take hm) x hx rfl).elim
  · exact (List.take_subset_take_left _ (Nat.sub_le _ _)) hm

/-- What came later is no older. -/
theorem Grows.newer (hfg : f.Grows g) (hx : x ∈ g.items) (hnot : x ∉ f.items)
    (hy : y ∈ f.items) : y.pubdate ≤ x.pubdate := by
  obtain ⟨new, hnew⟩ := hfg
  have hsorted := g.sorted
  rw [← hnew, List.pairwise_append] at hsorted
  rw [← hnew] at hx
  rcases List.mem_append.mp hx with hx | hx
  · exact hsorted.2.2 x hx y hy
  · exact (hnot hx).elim

/-- An item that is newer than the one at a place comes before it. -/
theorem mem_take_of_newer {m : Nat} (hx : f.items[m]? = some x) (hy : y ∈ f.items)
    (hlt : x.pubdate < y.pubdate) : y ∈ f.items.take m := by
  obtain ⟨hm, hx⟩ := List.getElem?_eq_some_iff.mp hx
  obtain ⟨j, hj, hy⟩ := List.getElem_of_mem hy
  rw [List.mem_take_iff_getElem]
  by_cases hjm : j < m
  · exact ⟨j, by omega, hy⟩
  · exfalso
    rcases Nat.lt_or_eq_of_le (Nat.le_of_not_lt hjm) with h | h
    · have hle := List.pairwise_iff_getElem.mp f.sorted m j hm hj h
      rw [hx, hy] at hle
      exact absurd hlt (not_lt.mpr hle)
    · subst h
      rw [hx] at hy
      rw [hy] at hlt
      exact lt_irrefl _ hlt

end BiliFeed

/-- The newest date of a list of items. -/
def newest (items : List BiliIdentity) : Option Pubdate := (items.map BiliIdentity.pubdate).max?

theorem newest_eq_some {items : List BiliIdentity} {d : Pubdate} :
    newest items = some d ↔ (∃ x ∈ items, x.pubdate = d) ∧ ∀ x ∈ items, x.pubdate ≤ d := by
  unfold newest
  rw [List.max?_eq_some_iff]
  simp

theorem newest_append_mem {items more : List BiliIdentity} (h : ∀ x ∈ more, x ∈ items) :
    newest (items ++ more) = newest items := by
  cases hitems : newest items with
  | none =>
    unfold newest at hitems
    rw [List.max?_eq_none_iff, List.map_eq_nil_iff] at hitems
    subst hitems
    cases more with
    | nil => rfl
    | cons x more => exact absurd (h x List.mem_cons_self) List.not_mem_nil
  | some d =>
    obtain ⟨⟨x, hx, hd⟩, hle⟩ := newest_eq_some.mp hitems
    refine newest_eq_some.mpr ⟨⟨x, List.mem_append_left _ hx, hd⟩, fun y hy => ?_⟩
    rcases List.mem_append.mp hy with hy | hy
    · exact hle y hy
    · exact hle y (h y hy)

/-- The candidate after a new page is the newest date on all pages. -/
theorem newest_append_page {items : List BiliIdentity} {page : BiliPage} :
    newest (items ++ page.identities) = match page.identities with
      | first :: _ => some (((newest items).map (max · first.pubdate)).getD first.pubdate)
      | [] => newest items := by
  have hsorted := List.isChain_iff_pairwise.mp page.valid.sorted
  cases hids : page.identities with
  | nil => rw [List.append_nil]
  | cons first rest =>
    rw [hids] at hsorted
    have hfirst : ∀ x ∈ first :: rest, x.pubdate ≤ first.pubdate := by
      intro x hx
      rcases List.mem_cons.mp hx with rfl | hx
      · exact le_refl _
      · exact List.rel_of_pairwise_cons hsorted hx
    dsimp only
    rw [newest_eq_some]
    cases hitems : newest items with
    | none =>
      unfold newest at hitems
      rw [List.max?_eq_none_iff, List.map_eq_nil_iff] at hitems
      subst hitems
      exact ⟨⟨first, List.mem_cons_self, rfl⟩, hfirst⟩
    | some d =>
      obtain ⟨⟨x, hx, hd⟩, hle⟩ := newest_eq_some.mp hitems
      change (∃ y ∈ items ++ first :: rest, y.pubdate = max d first.pubdate) ∧
        ∀ y ∈ items ++ first :: rest, y.pubdate ≤ max d first.pubdate
      refine ⟨?_, fun y hy => ?_⟩
      · rcases le_total d first.pubdate with h | h
        · exact ⟨first, by simp, (max_eq_right h).symm⟩
        · exact ⟨x, List.mem_append_left _ hx, hd.trans (max_eq_left h).symm⟩
      · rcases List.mem_append.mp hy with hy | hy
        · exact le_max_of_le_left (hle y hy)
        · exact le_max_of_le_right (hfirst y hy)

/-- Where a head sweep stands that listed the first page of `first`; the feed is
`now`. -/
structure Sweep (first now : BiliFeed) (lane : BiliLane) (candidate : Option Pubdate)
    (taken observed : List BiliIdentity) : Prop where
  place : ∃ g, first.Grows g ∧ g.Grows now ∧
    (∀ w, lane.witness = some w → g.page lane.page = .ok w) ∧
    ∀ x ∈ first.items, x ∈ g.items.take ((lane.page - 1) * biliScanPageSize + lane.index) →
      x ∈ taken
  candidate : candidate = newest observed
  older : ∀ x ∈ observed, ∃ y ∈ first.items, x.pubdate ≤ y.pubdate
  seen : ∀ y ∈ first.items, ∃ x ∈ observed, y.pubdate ≤ x.pubdate
  listed : ∀ w, lane.witness = some w → ∀ x ∈ w.identities, x ∈ observed
  previous : ∀ d, lane.previousPubdate = some d → ∃ y ∈ first.items, d ≤ y.pubdate
  begun : lane.witness = none → lane.previousPubdate.isSome

namespace Sweep

variable {first now later : BiliFeed} {lane : BiliLane} {candidate : Option Pubdate}
  {taken observed : List BiliIdentity}

theorem grown (h : Sweep first now lane candidate taken observed) (hgrows : now.Grows later) :
    Sweep first later lane candidate taken observed := by
  obtain ⟨g, hfirst, hnow, hwitness, htaken⟩ := h.place
  exact ⟨⟨g, hfirst, hnow.trans hgrows, hwitness, htaken⟩, h.candidate, h.older, h.seen, h.listed,
    h.previous, h.begun⟩

theorem first_grows (h : Sweep first now lane candidate taken observed) : first.Grows now := by
  obtain ⟨g, hfirst, hnow, _⟩ := h.place
  exact hfirst.trans hnow

/-- The witness is confirmed: the sweep has listed it once more. -/
theorem confirmed {page : BiliPage} (h : Sweep first now lane candidate taken observed)
    (hwitness : lane.witness = some page) :
    Sweep first now lane candidate taken (observed ++ page.identities) := by
  refine ⟨h.place, ?_, fun x hx => ?_, fun y hy => ?_, fun w hw x hx => ?_, h.previous, h.begun⟩
  · rw [newest_append_mem (h.listed page hwitness)]
    exact h.candidate
  · rcases List.mem_append.mp hx with hx | hx
    · exact h.older x hx
    · exact h.older x (h.listed page hwitness x hx)
  · exact (h.seen y hy).imp (fun x hx => ⟨List.mem_append_left _ hx.1, hx.2⟩)
  · exact List.mem_append_left _ (h.listed w hw x hx)

/-- The lane moves on to the page after its witness. -/
theorem nextPage {w : BiliPage} {last : BiliIdentity} {next : BiliLane}
    (h : Sweep first now lane candidate taken observed) (hwitness : lane.witness = some w)
    (hthrough : lane.index = w.identities.length) (hmore : w.sourceEnd = false)
    (hlast : w.identities.getLast? = some last) (hpage : next.page = lane.page + 1)
    (hnone : next.witness = none) (hindex : next.index = 0)
    (hprevious : next.previousPubdate = some last.pubdate) :
    Sweep first now next candidate taken observed := by
  obtain ⟨g, hfirst, hnow, hw, htaken⟩ := h.place
  refine ⟨⟨g, hfirst, hnow, fun v hv => ?_, fun x hx hm => ?_⟩, h.candidate, h.older, h.seen,
    fun v hv => ?_, fun d hd => ?_, fun _ => ?_⟩
  · rw [hnone] at hv
    cases hv
  · have hfull := (BiliFeed.page_full (hw w hwitness) hmore).1
    have hrange := lane.valid.pageRange.1
    refine htaken x hx ?_
    rw [hpage, hindex] at hm
    rw [hthrough, hfull]
    unfold biliScanPageSize at hm ⊢
    have heq : (lane.page - 1) * 30 + 30 = (lane.page + 1 - 1) * 30 + 0 := by omega
    rw [heq]
    exact hm
  · rw [hnone] at hv
    cases hv
  · rw [hprevious] at hd
    cases hd
    exact h.older last (h.listed w hwitness last (List.mem_of_getLast? hlast))
  · rw [hprevious]
    rfl

/-- A page that the lane sees for the first time, listed in a later feed. -/
theorem newPage {page : BiliPage} {next : BiliLane} {candidate' : Option Pubdate}
    (h : Sweep first now lane candidate taken observed) (hgrows : now.Grows later)
    (hnone : lane.witness = none) (hserved : later.page lane.page = .ok page)
    (hordered : ∀ d x, lane.previousPubdate = some d → page.identities.head? = some x →
      x.pubdate ≤ d)
    (hpage : next.page = lane.page) (hwitness : next.witness = some page) (hindex : next.index = 0)
    (hprevious : next.previousPubdate = lane.previousPubdate)
    (hcandidate : candidate' = newest (observed ++ page.identities)) :
    Sweep first later next candidate' taken (observed ++ page.identities) := by
  obtain ⟨g, hfirst, hnow, _, htaken⟩ := h.place
  have hg : g.Grows later := hnow.trans hgrows
  refine ⟨⟨later, hfirst.trans hg, .refl later, fun w hw => ?_, fun x hx hm => ?_⟩, hcandidate,
    fun x hx => ?_, fun y hy => ?_, fun w hw x hx => ?_, fun d hd => ?_, fun hn => ?_⟩
  · rw [hwitness] at hw
    cases hw
    rw [hpage]
    exact hserved
  · rw [hpage, hindex] at hm
    refine htaken x hx ?_
    rw [lane.valid.unseen hnone]
    exact hg.take (hfirst.mem hx) hm
  · rcases List.mem_append.mp hx with hx | hx
    · exact h.older x hx
    · obtain ⟨d, hd⟩ := Option.isSome_iff_exists.mp (h.begun hnone)
      obtain ⟨y, hy, hdy⟩ := h.previous d hd
      refine ⟨y, hy, le_trans ?_ hdy⟩
      have hsorted := List.isChain_iff_pairwise.mp page.valid.sorted
      cases hids : page.identities with
      | nil =>
        rw [hids] at hx
        cases hx
      | cons z rest =>
        rw [hids] at hx hsorted
        have hz := hordered d z hd (by rw [hids]; rfl)
        rcases List.mem_cons.mp hx with rfl | hx
        · exact hz
        · exact le_trans (List.rel_of_pairwise_cons hsorted hx) hz
  · exact (h.seen y hy).imp (fun x hx => ⟨List.mem_append_left _ hx.1, hx.2⟩)
  · rw [hwitness] at hw
    cases hw
    exact List.mem_append_right _ hx
  · rw [hprevious] at hd
    exact h.previous d hd
  · rw [hwitness] at hn
    cases hn

/-- The first page of a sweep. -/
theorem firstPage {page : BiliPage} {next : BiliLane} (hserved : first.page 1 = .ok page)
    (hpage : next.page = 1) (hwitness : next.witness = some page) (hindex : next.index = 0)
    (hprevious : next.previousPubdate = none) :
    Sweep first first next (newest page.identities) [] page.identities := by
  have hids := (BiliFeed.page_fields hserved).2.2
  refine ⟨⟨first, .refl first, .refl first, fun w hw => ?_, fun x _ hm => ?_⟩, rfl, fun x hx => ?_,
    fun y hy => ?_, fun w hw x hx => ?_, fun d hd => ?_, fun hn => ?_⟩
  · rw [hwitness] at hw
    cases hw
    rw [hpage]
    exact hserved
  · rw [hpage, hindex] at hm
    simp at hm
  · rw [hids] at hx
    exact ⟨x, List.mem_of_mem_drop (List.mem_of_mem_take hx), le_refl _⟩
  · have hsorted := first.sorted
    cases hitems : first.items with
    | nil =>
      rw [hitems] at hy
      cases hy
    | cons z rest =>
      rw [hitems] at hy hsorted
      refine ⟨z, ?_, ?_⟩
      · rw [hids, hitems]
        exact List.mem_cons_self
      · rcases List.mem_cons.mp hy with rfl | hy
        · exact le_refl _
        · exact List.rel_of_pairwise_cons hsorted hy
  · rw [hwitness] at hw
    cases hw
    exact hx
  · rw [hprevious] at hd
    cases hd
  · rw [hwitness] at hn
    cases hn

/-- The lane moves past the item. -/
theorem consumed {w : BiliPage} {x : BiliIdentity} {next : BiliLane}
    (h : Sweep first now lane candidate taken observed) (hwitness : lane.witness = some w)
    (hx : w.identities[lane.index]? = some x) (hpage : next.page = lane.page)
    (hnext : next.witness = lane.witness) (hindex : next.index = lane.index + 1)
    (hprevious : next.previousPubdate = lane.previousPubdate) :
    Sweep first now next candidate (taken ++ [x]) observed := by
  obtain ⟨g, hfirst, hnow, hw, htaken⟩ := h.place
  refine ⟨⟨g, hfirst, hnow, fun v hv => ?_, fun y hy hm => ?_⟩, h.candidate, h.older, h.seen,
    fun v hv => ?_, fun d hd => ?_, fun hn => ?_⟩
  · rw [hpage]
    exact hw v (hnext ▸ hv)
  · rw [hpage, hindex, ← Nat.add_assoc, List.take_add_one,
      BiliFeed.page_item (hw w hwitness) hx] at hm
    rcases List.mem_append.mp hm with hm | hm
    · exact List.mem_append_left _ (htaken y hy hm)
    · exact List.mem_append_right _ hm
  · exact h.listed v (hnext ▸ hv)
  · exact h.previous d (hprevious ▸ hd)
  · rw [hprevious]
    exact h.begun (hnext ▸ hn)

/-- At an item older than the boundary everything from the boundary up is taken. -/
theorem taken_above {w : BiliPage} {x : BiliIdentity} {b : Pubdate}
    (h : Sweep first now lane candidate taken observed) (hwitness : lane.witness = some w)
    (hx : w.identities[lane.index]? = some x) (hbelow : x.pubdate < b) {y : BiliIdentity}
    (hy : y ∈ first.items) (hb : b ≤ y.pubdate) : y ∈ taken := by
  obtain ⟨g, hfirst, _, hw, htaken⟩ := h.place
  exact htaken y hy (BiliFeed.mem_take_of_newer (BiliFeed.page_item (hw w hwitness) hx)
    (hfirst.mem hy) (lt_of_lt_of_le hbelow hb))

/-- At the end of the last page everything is taken. -/
theorem taken_all {w : BiliPage} (h : Sweep first now lane candidate taken observed)
    (hwitness : lane.witness = some w) (hthrough : lane.index = w.identities.length)
    (hend : w.sourceEnd = true) {y : BiliIdentity} (hy : y ∈ first.items) : y ∈ taken := by
  obtain ⟨g, hfirst, _, hw, htaken⟩ := h.place
  have hserved := hw w hwitness
  have hlast := BiliFeed.page_end hserved hend
  have hlength := congrArg List.length (BiliFeed.page_fields hserved).2.2
  rw [List.length_take, List.length_drop] at hlength
  have hrange := lane.valid.pageRange.1
  refine htaken y hy ?_
  rw [List.take_of_length_le]
  · exact hfirst.mem hy
  · rw [hthrough]
    unfold biliScanPageSize at *
    omega

end Sweep

/-! ## A head unit -/

/-- The feed when so many list requests have been answered. -/
def feedAfter (now : BiliFeed) (serve : Nat → BiliFeed) : Nat → BiliFeed
  | 0 => now
  | n + 1 => serve n

/-- A head unit between two of its actions, in a sweep that listed the first
page of `first`; earlier units of the sweep took `taken` and listed `observed`. -/
inductive HeadMid (first now : BiliFeed) (serve : Nat → BiliFeed)
    (taken observed : List BiliIdentity) (u : BiliScanUnit) : Prop
  | unlisted : u.reason = none → u.current = .start → u.state.headCandidate = none →
      u.pages = [] → u.consumed = [] → first = serve 0 → taken = [] → observed = [] →
      HeadMid first now serve taken observed u
  | swept : u.reason = none →
      Sweep first (feedAfter now serve u.pages.length) u.current u.state.headCandidate
        (taken ++ u.consumed) (observed ++ u.pages.flatMap BiliPage.identities) →
      HeadMid first now serve taken observed u
  | restarted : u.reason = some .restarted → u.current = .start →
      u.state.headCandidate = none → HeadMid first now serve taken observed u

section Unit

variable {first now : BiliFeed} {serve : Nat → BiliFeed} {taken observed : List BiliIdentity}
  {boundary : Option Pubdate} {u v w : BiliScanUnit}

theorem restart_head (hlane : u.lane = .head) :
    u.restart.state.headCandidate = none ∧ u.restart.state.headBoundary = u.state.headBoundary := by
  have hset := headBoundary_setLane u .start
  unfold restart
  rw [hlane]
  exact ⟨rfl, hset⟩

/-- A page that is not the one expected abandons the sweep. -/
theorem HeadMid.restart {page : BiliPage} (hlane : v.lane = .head) :
    HeadMid first now serve taken observed (v.listed page).restart := by
  obtain ⟨hreason, hcurrent, _⟩ := restart_fields (v.listed page)
  exact .restarted hreason hcurrent (restart_head (u := v.listed page) hlane).1

theorem candidate_of_page {page : BiliPage} {items : List BiliIdentity} (hlane : u.lane = .head)
    (hcandidate : u.state.headCandidate = newest items) (h : Witnesses u page w) :
    w.state.headCandidate = newest (items ++ page.identities) := by
  rw [newest_append_page, h.candidate, hlane, hcandidate]
  cases page.identities <;> rfl

theorem HeadMid.observes {p : Nat} {page : BiliPage} (hlane : u.lane = .head)
    (hgrows : ∀ n, (feedAfter now serve n).Grows (serve n))
    (hu : HeadMid first now serve taken observed u) (hasks : Asks u (.list p) v)
    (hserved : (serve u.pages.length).page p = .ok page) (hobserves : Observes v page w) :
    HeadMid first now serve taken observed w := by
  have hvlane : v.lane = .head := hasks.frame.1.trans hlane
  have hwpages : w.pages = u.pages ++ [page] := hasks.pages ▸ hobserves.frame.1
  have hwconsumed : w.consumed = u.consumed := hobserves.frame.2.1.trans hasks.consumed
  have hflat : w.pages.flatMap BiliPage.identities =
      u.pages.flatMap BiliPage.identities ++ page.identities := by
    rw [hwpages, List.flatMap_append]
    simp
  have hlength : w.pages.length = u.pages.length + 1 := by
    rw [hwpages, List.length_append]
    rfl
  have hvcandidate : v.state.headCandidate = u.state.headCandidate := by
    cases hasks with
    | list => rfl
    | nextPage _ _ lane => exact headCandidate_setLane u lane
  cases hu with
  | restarted hreason =>
    have hopen := hasks.list_pages.2.running
    rw [hreason] at hopen
    cases hopen
  | unlisted _ hcurrent hcandidate hpages hconsumed hfirst htaken hobserved =>
    subst hfirst htaken hobserved
    have hv : v = u ∧ p = 1 := by
      cases hasks with
      | list => exact ⟨rfl, by rw [hcurrent]; rfl⟩
      | nextPage _ _ _ _ _ hleaves =>
        have hwitness := hleaves.witness
        rw [hcurrent] at hwitness
        cases hwitness
    obtain ⟨rfl, hp⟩ := hv
    rw [hpages, hp] at hserved
    have hnone : v.current.witness = none := by rw [hcurrent]; rfl
    cases hobserves with
    | confirms hwitness => rw [hnone] at hwitness; cases hwitness
    | changed _ hwitness => rw [hnone] at hwitness; cases hwitness
    | disordered _ hdisordered =>
      unfold disordered at hdisordered
      rw [hcurrent] at hdisordered
      cases hdisordered
    | new _ _ _ hnew =>
      have hw := newPage_witnesses (u := v.listed page) hnone hnew
      have hwcandidate : w.state.headCandidate = newest ([] ++ page.identities) :=
        candidate_of_page (u := v.listed page) hlane hcandidate hw
      refine .swept (hw.reason.trans hasks.running) ?_
      rw [hlength, hflat, hwcandidate, hwconsumed, hconsumed, hpages]
      have hcurrent' : (v.listed page).current = .start := hcurrent
      exact Sweep.firstPage hserved (hw.number.trans (by rw [hcurrent']; rfl)) hw.witness hw.index
        (hw.previous.trans (by rw [hcurrent']; rfl))
  | swept _ hsweep =>
    -- the sweep at the page that is asked for
    have hv : Sweep first (feedAfter now serve u.pages.length) v.current v.state.headCandidate
        (taken ++ u.consumed) (observed ++ u.pages.flatMap BiliPage.identities) ∧
        p = v.current.page := by
      cases hasks with
      | list => exact ⟨hsweep, rfl⟩
      | nextPage x last lane _ _ hleaves hlast hpage hwitness hindex hprevious =>
        have hcurrent : ({ u.setLane lane with verified := false } : BiliScanUnit).current = lane :=
          current_setLane u lane
        rw [hvcandidate, hcurrent]
        exact ⟨hsweep.nextPage hleaves.witness (pending_none hleaves.witness hleaves.through)
          hleaves.more hlast hpage hwitness hindex hprevious, rfl⟩
    obtain ⟨hsweepv, hp⟩ := hv
    rw [hp] at hserved
    cases hobserves with
    | confirms hwitness =>
      refine .swept hasks.running ?_
      rw [hlength, hflat, ← List.append_assoc, hwconsumed]
      exact (hsweepv.confirmed hwitness).grown (hgrows _)
    | changed => exact .restart hvlane
    | disordered => exact .restart hvlane
    | new _ hnone hordered hnew =>
      have hw := newPage_witnesses (u := v.listed page) hnone hnew
      have hwcandidate := candidate_of_page (u := v.listed page) hvlane hsweepv.candidate hw
      refine .swept (hw.reason.trans hasks.running) ?_
      rw [hlength, hflat, ← List.append_assoc, hwconsumed]
      refine hsweepv.newPage (hgrows _) hnone hserved (fun d x hd hx => ?_) hw.number hw.witness
        hw.index hw.previous hwcandidate
      unfold disordered at hordered
      cases hids : page.identities with
      | nil =>
        rw [hids] at hx
        cases hx
      | cons y rest =>
        rw [hids] at hx
        cases hx
        rw [hd, hids] at hordered
        exact not_lt.mp (of_decide_eq_false hordered)

theorem HeadMid.consumes {x : BiliIdentity} (hu : HeadMid first now serve taken observed u)
    (hasks : Asks u (.detail x) u) (h : Consumes u x v) :
    HeadMid first now serve taken observed v := by
  obtain ⟨_, hopen, hpending, _⟩ := hasks.detail_open
  cases hu with
  | restarted hreason =>
    have hrunning := hopen.running
    rw [hreason] at hrunning
    cases hrunning
  | unlisted _ hcurrent =>
    unfold pending at hpending
    rw [hcurrent] at hpending
    cases hpending
  | swept hreason hsweep =>
    refine .swept (h.reason.trans hreason) ?_
    unfold pending at hpending
    cases hwitness : u.current.witness with
    | none =>
      rw [hwitness] at hpending
      cases hpending
    | some w =>
      rw [hwitness] at hpending
      rw [h.pages, h.consumed, h.candidate, ← List.append_assoc]
      exact hsweep.consumed hwitness hpending h.number h.witness h.index h.previous

/-- What the end of a head sweep means. -/
structure SweepEnds (first : BiliFeed) (boundary : Option Pubdate)
    (taken observed : List BiliIdentity) (next : Option Pubdate) : Prop where
  taken : ∀ x ∈ first.items, (∀ b, boundary = some b → b ≤ x.pubdate) → x ∈ taken
  next : next = [boundary, newest observed].reduceOption.max?
  older : ∀ x ∈ observed, ∃ y ∈ first.items, x.pubdate ≤ y.pubdate
  seen : ∀ y ∈ first.items, ∃ x ∈ observed, y.pubdate ≤ x.pubdate

/-- How a head unit can end. -/
inductive HeadEnds (first now : BiliFeed) (serve : Nat → BiliFeed) (boundary : Option Pubdate)
    (taken observed : List BiliIdentity) (w : BiliScanUnit) : Prop
  | restarted : w.reason = some .restarted → w.current = .start → w.state.headCandidate = none →
      w.state.headBoundary = boundary → HeadEnds first now serve boundary taken observed w
  | stays : w.reason = some .itemLimit ∨ w.reason = some .listLimit →
      w.state.headBoundary = boundary →
      Sweep first (feedAfter now serve w.pages.length) w.current w.state.headCandidate
        (taken ++ w.consumed) (observed ++ w.pages.flatMap BiliPage.identities) →
      HeadEnds first now serve boundary taken observed w
  | ended : w.reason = some .headBoundary ∨ w.reason = some .sourceEnd → w.current = .start →
      w.state.headCandidate = none →
      SweepEnds first boundary (taken ++ w.consumed)
        (observed ++ w.pages.flatMap BiliPage.identities) w.state.headBoundary →
      HeadEnds first now serve boundary taken observed w

theorem finishSweep_head {r : BiliReason} (hlane : u.lane = .head) :
    (u.finishSweep r).state.headCandidate = none ∧ (u.finishSweep r).state.headBoundary =
      [u.state.headBoundary, u.state.headCandidate].reduceOption.max? := by
  have hset := lane_setLane u .start
  have hboundary := headBoundary_setLane u .start
  have hcandidate := headCandidate_setLane u .start
  unfold finishSweep raiseBoundary
  rw [hset, hlane]
  dsimp only
  refine ⟨rfl, ?_⟩
  change [(u.setLane .start).state.headBoundary,
    (u.setLane .start).state.headCandidate].reduceOption.max? = _
  rw [hboundary, hcandidate]

theorem HeadMid.ends (hlane : u.lane = .head) (hboundary : u.state.headBoundary = boundary)
    (hlimit : 1 ≤ u.limit) (hu : HeadMid first now serve taken observed u)
    (hasks : Asks u .stop w) : HeadEnds first now serve boundary taken observed w := by
  cases hu with
  | restarted hreason hcurrent hcandidate =>
    cases hasks with
    | stopped => exact .restarted hreason hcurrent hcandidate hboundary
    | itemLimit h => rw [hreason] at h; cases h
    | listLimit h => have h := h.running; rw [hreason] at h; cases h
    | headBoundary _ h => have h := h.running; rw [hreason] at h; cases h
    | sourceEnd _ h => have h := h.running; rw [hreason] at h; cases h
  | unlisted hreason hcurrent _ hpages hconsumed =>
    cases hasks with
    | stopped h => rw [hreason] at h; cases h
    | itemLimit _ h => rw [hconsumed] at h; rw [← h] at hlimit; cases hlimit
    | listLimit _ h => rw [hpages] at h; cases h
    | headBoundary _ _ h =>
      unfold pending at h
      rw [hcurrent] at h
      cases h
    | sourceEnd _ _ _ h => rw [hcurrent] at h; cases h
  | swept hreason hsweep =>
    cases hasks with
    | stopped h => rw [hreason] at h; cases h
    | itemLimit => exact .stays (.inl rfl) hboundary hsweep
    | listLimit => exact .stays (.inr rfl) hboundary hsweep
    | headBoundary x hopen hpending hbelow =>
      obtain ⟨hr, hcurrent, hpages, hconsumed, _⟩ := finishSweep_fields u .headBoundary
      obtain ⟨hnone, hnext⟩ := finishSweep_head (r := .headBoundary) hlane
      refine .ended (.inl hr) hcurrent hnone ⟨fun y hy hb => ?_, ?_, ?_, ?_⟩
      · rw [hconsumed]
        unfold belowBoundary at hbelow
        rw [hlane, hboundary] at hbelow
        cases hb' : boundary with
        | none =>
          rw [hb'] at hbelow
          cases hbelow
        | some b =>
          rw [hb'] at hbelow
          unfold pending at hpending
          cases hwitness : u.current.witness with
          | none =>
            rw [hwitness] at hpending
            cases hpending
          | some page =>
            rw [hwitness] at hpending
            exact hsweep.taken_above hwitness hpending (of_decide_eq_true hbelow) hy (hb b hb')
      · rw [hnext, hpages, hboundary, hsweep.candidate]
      · rw [hpages]
        exact hsweep.older
      · rw [hpages]
        exact hsweep.seen
    | sourceEnd page hopen hpending hwitness hverified hend =>
      obtain ⟨hr, hcurrent, hpages, hconsumed, _⟩ := finishSweep_fields u .sourceEnd
      obtain ⟨hnone, hnext⟩ := finishSweep_head (r := .sourceEnd) hlane
      refine .ended (.inr hr) hcurrent hnone ⟨fun y hy _ => ?_, ?_, ?_, ?_⟩
      · rw [hconsumed]
        exact hsweep.taken_all hwitness (pending_none hwitness hpending) hend hy
      · rw [hnext, hpages, hboundary, hsweep.candidate]
      · rw [hpages]
        exact hsweep.older
      · rw [hpages]
        exact hsweep.seen

theorem BiliScanUnit.Observes.headBoundary {page : BiliPage} (hlane : u.lane = .head)
    (h : Observes u page v) : v.state.headBoundary = u.state.headBoundary := by
  cases h with
  | confirms => rfl
  | changed => exact (restart_head (u := u.listed page) hlane).2
  | disordered => exact (restart_head (u := u.listed page) hlane).2
  | new _ hwitness _ hnew => exact (newPage_witnesses (u := u.listed page) hwitness hnew).boundary

theorem BiliScanUnit.Asks.list_boundary {p : Nat} (h : Asks u (.list p) v) :
    v.state.headBoundary = u.state.headBoundary := by
  cases h with
  | list => rfl
  | nextPage _ _ lane => exact headBoundary_setLane u lane

theorem HeadMid.drives (hgrows : ∀ n, (feedAfter now serve n).Grows (serve n))
    (h : Drives serve u w) (hlane : u.lane = .head) (hboundary : u.state.headBoundary = boundary)
    (hlimit : 1 ≤ u.limit) (hu : HeadMid first now serve taken observed u) :
    HeadEnds first now serve boundary taken observed w := by
  induction h with
  | stop hasks => exact hu.ends hlane hboundary hlimit hasks
  | @list u v w x page hasks hserved hobserves _ ih =>
    have hvlane : v.lane = .head := hasks.frame.1.trans hlane
    have hvboundary := hasks.list_boundary
    obtain ⟨_, _, hwlane, hwlimit, _⟩ := hobserves.frame
    refine ih (hwlane.trans hvlane) ?_ ?_ (hu.observes hlane hgrows hasks hserved hobserves)
    · rw [hobserves.headBoundary hvlane, hvboundary]
      exact hboundary
    · rw [hwlimit, hasks.frame.2.1]
      exact hlimit
  | detail hasks hconsume _ ih =>
    have hconsumes := consumeNext_consumes hconsume
    exact ih (hconsumes.lane.trans hlane) (hconsumes.boundary.trans hboundary)
      (by rw [hconsumes.limit]; exact hlimit) (hu.consumes hasks hconsumes)

end Unit

/-- A scan, its feed, and what the head sweep in progress did: the feed it first
listed, the items it consumed and the items it saw. `ever` is what the head lane
has consumed since the beginning. -/
structure HeadWatch where
  feed : BiliFeed
  state : BiliScanState
  first : Option BiliFeed
  taken : List BiliIdentity
  observed : List BiliIdentity
  ever : List BiliIdentity

/-- Before the first unit. -/
def HeadWatch.begin (feed : BiliFeed) (state : BiliScanState) : HeadWatch :=
  ⟨feed, state, none, [], [], []⟩

/-- After an accepted unit; a head unit that finds its lane at the start begins a
sweep with its first list request. -/
def HeadWatch.after (w : HeadWatch) (serve : Nat → BiliFeed) (c : BiliScanCoverage)
    (feed : BiliFeed) : HeadWatch :=
  match c.summary.lane with
  | .history => { w with feed := feed, state := c.nextState }
  | .head =>
    let seen := c.pages.flatMap BiliPage.identities
    if w.state.head = .start then
      ⟨feed, c.nextState, some (serve 0), c.consumed, seen, w.ever ++ c.consumed⟩
    else
      ⟨feed, c.nextState, w.first, w.taken ++ c.consumed, w.observed ++ seen, w.ever ++ c.consumed⟩

/-- The feed grows between and within units; a unit is accepted, or refused and
forgotten. -/
inductive HeadStep : HeadWatch → Option BiliScanCoverage → HeadWatch → Prop
  | grows {w : HeadWatch} {feed : BiliFeed} : w.feed.Grows feed →
      HeadStep w none { w with feed := feed }
  | accepted {w : HeadWatch} {serve : Nat → BiliFeed} {feed : BiliFeed} {maxItems : Nat}
      {c : BiliScanCoverage} : (∀ n, (feedAfter w.feed serve n).Grows (serve n)) →
      (∀ n, (serve n).Grows feed) → runBiliUnit serve w.state maxItems = .ok c →
      HeadStep w (some c) (w.after serve c feed)
  | refused {w : HeadWatch} {serve : Nat → BiliFeed} {feed : BiliFeed} {maxItems : Nat}
      {e : ScanError} : (∀ n, (feedAfter w.feed serve n).Grows (serve n)) →
      (∀ n, (serve n).Grows feed) → runBiliUnit serve w.state maxItems = .error e →
      HeadStep w none { w with feed := feed }

/-- The unit ends a head sweep. -/
def EndsHead (c : BiliScanCoverage) : Prop :=
  c.summary.lane = .head ∧
    (c.summary.stopReason = .headBoundary ∨ c.summary.stopReason = .sourceEnd)

/-- Newer than the boundary, where there is one. -/
def Above (boundary : Option Pubdate) (x : BiliIdentity) : Prop :=
  ∀ b, boundary = some b → b < x.pubdate

/-- Not older than the boundary, where there is one. -/
def NotBelow (boundary : Option Pubdate) (x : BiliIdentity) : Prop :=
  ∀ b, boundary = some b → b ≤ x.pubdate

theorem Above.notBelow {boundary : Option Pubdate} {x : BiliIdentity} (h : Above boundary x) :
    NotBelow boundary x :=
  fun b hb => le_of_lt (h b hb)

/-- What holds between units, `origin` and `start` being the first feed and
boundary: an item newer than `start` has been consumed, or the next sweep will
come to it. -/
structure Watched (origin : BiliFeed) (start : Option Pubdate) (w : HeadWatch) : Prop where
  settled : w.state.head = .start → w.state.headCandidate = none
  sweep : w.state.head ≠ .start → ∃ first, w.first = some first ∧
    Sweep first w.feed w.state.head w.state.headCandidate w.taken w.observed ∧
    origin.Grows first ∧ ∀ b, w.state.headBoundary = some b →
      start = some b ∨ ∃ y ∈ first.items, b ≤ y.pubdate
  recorded : ∀ x ∈ w.taken, x ∈ w.ever
  left : ∀ x ∈ w.feed.items, Above start x → x ∈ w.ever ∨ NotBelow w.state.headBoundary x
  known : ∀ b, w.state.headBoundary = some b →
    start = some b ∨ ∃ y ∈ w.feed.items, b ≤ y.pubdate
  grown : origin.Grows w.feed

namespace Watched

variable {origin : BiliFeed} {start : Option Pubdate} {w : HeadWatch} {feed : BiliFeed}

theorem grows (h : Watched origin start w) (hgrows : w.feed.Grows feed) :
    Watched origin start { w with feed := feed } where
  settled := h.settled
  sweep hne := by
    obtain ⟨first, hfirst, hsweep, hrest⟩ := h.sweep hne
    exact ⟨first, hfirst, hsweep.grown hgrows, hrest⟩
  recorded := h.recorded
  left x hx habove := by
    by_cases hold : x ∈ w.feed.items
    · exact h.left x hold habove
    · refine .inr (fun b hb => ?_)
      rcases h.known b hb with hstart | ⟨y, hy, hle⟩
      · exact habove.notBelow b hstart
      · exact le_trans hle (hgrows.newer hx hold hy)
  known b hb := by
    rcases h.known b hb with hstart | ⟨y, hy, hle⟩
    · exact .inl hstart
    · exact .inr ⟨y, hgrows.mem hy, hle⟩
  grown := h.grown.trans hgrows

end Watched

theorem feedAfter_grows {now : BiliFeed} {serve : Nat → BiliFeed} {feed : BiliFeed}
    (hgrows : ∀ n, (feedAfter now serve n).Grows (serve n)) (hlast : ∀ n, (serve n).Grows feed)
    (n : Nat) : (feedAfter now serve n).Grows feed :=
  (hgrows n).trans (hlast n)

theorem reduceOption_max {a b : Option Pubdate} {m : Pubdate}
    (h : [a, b].reduceOption.max? = some m) :
    (a = some m ∨ b = some m) ∧ (∀ x, a = some x → x ≤ m) ∧ ∀ x, b = some x → x ≤ m := by
  rw [List.max?_eq_some_iff] at h
  obtain ⟨hmem, hle⟩ := h
  simp only [List.reduceOption_mem_iff, List.mem_cons, List.not_mem_nil, or_false] at hmem hle
  refine ⟨?_, fun x hx => hle x (.inl hx.symm), fun x hx => hle x (.inr hx.symm)⟩
  rcases hmem with h | h
  · exact .inl h.symm
  · exact .inr h.symm

/-! ## An accepted unit -/

section Accepted

variable {origin : BiliFeed} {start : Option Pubdate} {w : HeadWatch} {serve : Nat → BiliFeed}
  {feed : BiliFeed} {maxItems : Nat} {c : BiliScanCoverage}

/-- What the sweep in progress had taken and seen before the unit. -/
def HeadWatch.before (w : HeadWatch) : List BiliIdentity × List BiliIdentity :=
  if w.state.head = .start then ([], []) else (w.taken, w.observed)

/-- The feed whose first page the sweep of the unit listed first. -/
def HeadWatch.firstOf (w : HeadWatch) (serve : Nat → BiliFeed) : Option BiliFeed :=
  if w.state.head = .start then some (serve 0) else w.first

theorem after_head (w : HeadWatch) (serve : Nat → BiliFeed) (feed : BiliFeed)
    (hlane : c.summary.lane = .head) :
    (w.after serve c feed).feed = feed ∧ (w.after serve c feed).state = c.nextState ∧
      (w.after serve c feed).first = w.firstOf serve ∧
      (w.after serve c feed).taken = w.before.1 ++ c.consumed ∧
      (w.after serve c feed).observed = w.before.2 ++ c.pages.flatMap BiliPage.identities ∧
      (w.after serve c feed).ever = w.ever ++ c.consumed := by
  unfold HeadWatch.after HeadWatch.firstOf HeadWatch.before
  rw [hlane]
  dsimp only
  by_cases hstart : w.state.head = .start
  · simp [hstart]
  · simp [hstart]

/-- A history unit leaves the head lane alone. -/
theorem accepted_history (hrun : runBiliUnit serve w.state maxItems = .ok c)
    (hlane : c.summary.lane = .history) :
    c.nextState.head = w.state.head ∧ c.nextState.headBoundary = w.state.headBoundary ∧
      c.nextState.headCandidate = w.state.headCandidate := by
  obtain ⟨v, hdrives, hcoverage, _⟩ := drive_of_runBiliUnit hrun
  obtain ⟨_, hclane, _, _, _, hnext⟩ := coverage_ok hdrives.reason hcoverage
  have huntouched := hdrives.untouched
  have hstart : (fresh w.state maxItems).lane = .history := by
    rw [← huntouched.lane, ← hclane]
    exact hlane
  rw [hnext]
  exact huntouched.head hstart

/-- How an accepted head unit ends. -/
inductive HeadUnit (first feed : BiliFeed) (boundary : Option Pubdate)
    (taken observed : List BiliIdentity) (c : BiliScanCoverage) : Prop
  | restarted : c.summary.stopReason = .restarted → c.nextState.head = .start →
      c.nextState.headCandidate = none → c.nextState.headBoundary = boundary →
      HeadUnit first feed boundary taken observed c
  | stays : c.summary.stopReason = .itemLimit ∨ c.summary.stopReason = .listLimit →
      c.nextState.headBoundary = boundary →
      Sweep first feed c.nextState.head c.nextState.headCandidate taken observed →
      HeadUnit first feed boundary taken observed c
  | ended : c.summary.stopReason = .headBoundary ∨ c.summary.stopReason = .sourceEnd →
      c.nextState.head = .start → c.nextState.headCandidate = none →
      SweepEnds first boundary taken observed c.nextState.headBoundary →
      HeadUnit first feed boundary taken observed c

theorem accepted_head (hw : Watched origin start w)
    (hgrows : ∀ n, (feedAfter w.feed serve n).Grows (serve n)) (hlast : ∀ n, (serve n).Grows feed)
    (hrun : runBiliUnit serve w.state maxItems = .ok c) (hlane : c.summary.lane = .head) :
    ∃ first, w.firstOf serve = some first ∧ origin.Grows first ∧ first.Grows feed ∧
      (∀ b, w.state.headBoundary = some b → start = some b ∨ ∃ y ∈ first.items, b ≤ y.pubdate) ∧
      HeadUnit first feed w.state.headBoundary (w.before.1 ++ c.consumed)
        (w.before.2 ++ c.pages.flatMap BiliPage.identities) c := by
  obtain ⟨v, hdrives, hcoverage, hmax⟩ := drive_of_runBiliUnit hrun
  obtain ⟨hreason, hclane, hconsumed, hpages, _, hnext⟩ := coverage_ok hdrives.reason hcoverage
  have hvlane : v.lane = .head := hclane.symm.trans hlane
  have hulane : (fresh w.state maxItems).lane = .head := hdrives.untouched.lane.symm.trans hvlane
  have hlimit : 1 ≤ (fresh w.state maxItems).limit := le_min hmax (by decide)
  have hcurrent : (fresh w.state maxItems).current = w.state.head := by
    unfold current
    rw [hulane]
    rfl
  have hhead : c.nextState.head = v.current := by
    unfold current
    rw [hvlane, hnext]
    rfl
  have hunit : ∀ first, HeadEnds first w.feed serve w.state.headBoundary w.before.1 w.before.2 v →
      HeadUnit first feed w.state.headBoundary (w.before.1 ++ c.consumed)
        (w.before.2 ++ c.pages.flatMap BiliPage.identities) c := by
    intro first hends
    rw [hconsumed, hpages]
    cases hends with
    | restarted hr hstart hnone hb =>
      rw [hreason] at hr
      exact .restarted (Option.some.inj hr) (hhead.trans hstart) (by rw [hnext]; exact hnone)
        (by rw [hnext]; exact hb)
    | stays hr hb hsweep =>
      rw [hreason] at hr
      refine .stays (hr.imp Option.some.inj Option.some.inj) (by rw [hnext]; exact hb) ?_
      have hgrown := hsweep.grown (feedAfter_grows hgrows hlast _)
      rw [hhead, hnext]
      exact hgrown
    | ended hr hstart hnone hsweep =>
      rw [hreason] at hr
      exact .ended (hr.imp Option.some.inj Option.some.inj) (hhead.trans hstart)
        (by rw [hnext]; exact hnone) (by rw [hnext]; exact hsweep)
  by_cases hstart : w.state.head = .start
  · have hmid : HeadMid (serve 0) w.feed serve [] [] (fresh w.state maxItems) :=
      .unlisted rfl (hcurrent.trans hstart) (hw.settled hstart) rfl rfl rfl rfl rfl
    refine ⟨serve 0, if_pos hstart, hw.grown.trans (hgrows 0), hlast 0, fun b hb => ?_,
      hunit _ ?_⟩
    · rcases hw.known b hb with h | ⟨y, hy, hle⟩
      · exact .inl h
      · exact .inr ⟨y, (hgrows 0).mem hy, hle⟩
    · unfold HeadWatch.before
      rw [if_pos hstart]
      exact hmid.drives hgrows hdrives hulane rfl hlimit
  · obtain ⟨first, hfirst, hsweep, horigin, hknown⟩ := hw.sweep hstart
    have hmid : HeadMid first w.feed serve w.taken w.observed (fresh w.state maxItems) := by
      refine .swept rfl ?_
      rw [hcurrent]
      change Sweep first w.feed w.state.head w.state.headCandidate (w.taken ++ []) (w.observed ++ [])
      rw [List.append_nil, List.append_nil]
      exact hsweep
    refine ⟨first, (if_neg hstart).trans hfirst, horigin,
      hsweep.first_grows.trans (feedAfter_grows hgrows hlast 0), hknown, hunit _ ?_⟩
    unfold HeadWatch.before
    rw [if_neg hstart]
    exact hmid.drives hgrows hdrives hulane rfl hlimit

/-- The items of the first feed of a sweep, at its end. -/
theorem ended_ever (hw : Watched origin start w) {first : BiliFeed} {taken observed : List BiliIdentity}
    {next : Option Pubdate} (hends : SweepEnds first w.state.headBoundary taken observed next)
    (hgrows : first.Grows feed) (hfeed : w.feed.Grows feed) {x : BiliIdentity}
    (hx : x ∈ first.items) (habove : Above start x) : x ∈ w.ever ∨ x ∈ taken := by
  by_cases hold : x ∈ w.feed.items
  · rcases hw.left x hold habove with h | h
    · exact .inl h
    · exact .inr (hends.taken x hx h)
  · refine .inr (hends.taken x hx (fun b hb => ?_))
    rcases hw.known b hb with h | ⟨y, hy, hle⟩
    · exact habove.notBelow b h
    · exact le_trans hle (hfeed.newer (hgrows.mem hx) hold hy)

theorem before_recorded (hw : Watched origin start w) {x : BiliIdentity} (hx : x ∈ w.before.1) :
    x ∈ w.ever := by
  unfold HeadWatch.before at hx
  by_cases hstart : w.state.head = .start
  · rw [if_pos hstart] at hx
    cases hx
  · rw [if_neg hstart] at hx
    exact hw.recorded x hx

/-- The boundary after a sweep is the one before it, or no newer than an item of the first feed. -/
theorem SweepEnds.boundary_cases {first : BiliFeed} {boundary next : Option Pubdate}
    {taken observed : List BiliIdentity} (h : SweepEnds first boundary taken observed next)
    {b : Pubdate} (hb : next = some b) :
    boundary = some b ∨ ∃ z ∈ first.items, b ≤ z.pubdate := by
  rw [h.next] at hb
  rcases (reduceOption_max hb).1 with hb | hb
  · exact .inl hb
  · obtain ⟨⟨y, hy, hyb⟩, _⟩ := newest_eq_some.mp hb
    obtain ⟨z, hz, hyz⟩ := h.older y hy
    exact .inr ⟨z, hz, hyb ▸ hyz⟩

/-- An item that came after the sweep began is not older than what the sweep saw. -/
theorem SweepEnds.late_notBelow {first : BiliFeed} {boundary next : Option Pubdate}
    {taken observed : List BiliIdentity} (h : SweepEnds first boundary taken observed next)
    (hnow : first.Grows feed) {x : BiliIdentity} (hbelow : NotBelow boundary x)
    (hx : x ∈ feed.items) (hold : x ∉ first.items) : NotBelow next x := by
  intro b hb
  rcases h.boundary_cases hb with hb | ⟨z, hz, hle⟩
  · exact hbelow b hb
  · exact le_trans hle (hnow.newer hx hold hz)

/-- A unit of the history lane leaves the head as it was. -/
theorem Watched.accepted_other (hw : Watched origin start w) (hfeed : w.feed.Grows feed)
    (hrun : runBiliUnit serve w.state maxItems = .ok c) (hlane : c.summary.lane = .history) :
    Watched origin start (w.after serve c feed) := by
  obtain ⟨hhead, hboundary, hcandidate⟩ := accepted_history hrun hlane
  have hafter : w.after serve c feed = { w with feed := feed, state := c.nextState } := by
    unfold HeadWatch.after
    rw [hlane]
  have hg := hw.grows hfeed
  rw [hafter]
  refine ⟨?_, ?_, hw.recorded, ?_, ?_, hg.grown⟩
  · dsimp only
    rw [hhead, hcandidate]
    exact hg.settled
  · dsimp only
    rw [hhead, hboundary, hcandidate]
    exact hg.sweep
  · dsimp only
    rw [hboundary]
    exact hg.left
  · dsimp only
    rw [hboundary]
    exact hg.known

theorem Watched.accepted (hw : Watched origin start w)
    (hgrows : ∀ n, (feedAfter w.feed serve n).Grows (serve n)) (hlast : ∀ n, (serve n).Grows feed)
    (hrun : runBiliUnit serve w.state maxItems = .ok c) :
    Watched origin start (w.after serve c feed) := by
  have hfeed : w.feed.Grows feed := feedAfter_grows hgrows hlast 0
  cases hlane : c.summary.lane with
  | history =>
    exact hw.accepted_other hfeed hrun hlane
  | head =>
    obtain ⟨first, hfirst, horigin, hnow, hknown, hunit⟩ := accepted_head hw hgrows hlast hrun hlane
    obtain ⟨hafeed, hastate, hafirst, hataken, haobserved, haever⟩ :=
      after_head w serve feed hlane
    have hg := hw.grows hfeed
    have hrecorded : ∀ x ∈ (w.after serve c feed).taken, x ∈ (w.after serve c feed).ever := by
      rw [hataken, haever]
      intro x hx
      rcases List.mem_append.mp hx with hx | hx
      · exact List.mem_append_left _ (before_recorded hw hx)
      · exact List.mem_append_right _ hx
    have hgrown : origin.Grows (w.after serve c feed).feed := by
      rw [hafeed]
      exact hg.grown
    have hsame : c.nextState.headBoundary = w.state.headBoundary →
        (∀ x ∈ feed.items, Above start x →
          x ∈ w.ever ++ c.consumed ∨ NotBelow c.nextState.headBoundary x) ∧
        ∀ b, c.nextState.headBoundary = some b → start = some b ∨ ∃ y ∈ feed.items, b ≤ y.pubdate := by
      intro heq
      rw [heq]
      exact ⟨fun x hx habove => (hg.left x hx habove).imp_left (List.mem_append_left _), hg.known⟩
    rw [← hataken, ← haobserved] at hunit
    cases hunit with
    | restarted _ hstart hnone hb =>
      refine ⟨fun _ => ?_, fun hne => ?_, hrecorded, ?_, ?_, hgrown⟩
      · rw [hastate]
        exact hnone
      · rw [hastate] at hne
        exact (hne hstart).elim
      · rw [hafeed, hastate, haever]
        exact (hsame hb).1
      · rw [hafeed, hastate]
        exact (hsame hb).2
    | stays _ hb hsweep =>
      refine ⟨fun hstart => ?_, fun _ => ⟨first, ?_⟩, hrecorded, ?_, ?_, hgrown⟩
      · rw [hastate] at hstart
        have hbegun := hsweep.begun (by rw [hstart]; rfl)
        rw [hstart] at hbegun
        cases hbegun
      · rw [hafirst, hafeed, hastate]
        refine ⟨hfirst, hsweep, horigin, ?_⟩
        rw [hb]
        exact hknown
      · rw [hafeed, hastate, haever]
        exact (hsame hb).1
      · rw [hafeed, hastate]
        exact (hsame hb).2
    | ended _ hstart hnone hends =>
      refine ⟨fun _ => ?_, fun hne => ?_, hrecorded, ?_, ?_, hgrown⟩
      · rw [hastate]
        exact hnone
      · rw [hastate] at hne
        exact (hne hstart).elim
      · rw [hafeed, hastate, haever]
        intro x hx habove
        by_cases hold : x ∈ first.items
        · refine .inl ?_
          rcases ended_ever hw hends hnow hfeed hold habove with h | h
          · exact List.mem_append_left _ h
          · have hmem := hrecorded x h
            rw [haever] at hmem
            exact hmem
        · rcases hg.left x hx habove with h | h
          · exact .inl (List.mem_append_left _ h)
          · exact .inr (hends.late_notBelow hnow h hx hold)
      · rw [hafeed, hastate]
        intro b hb
        rcases hends.boundary_cases hb with hb | ⟨z, hz, hle⟩
        · exact hg.known b hb
        · exact .inr ⟨z, hnow.mem hz, hle⟩

end Accepted

/-! ## Whole runs -/

/-- The head lane is between two sweeps. -/
def BetweenSweeps (s : BiliScanState) : Prop := s.head = .start ∧ s.headCandidate = none

theorem watched_begin {feed : BiliFeed} {state : BiliScanState} (h : BetweenSweeps state) :
    Watched feed state.headBoundary (.begin feed state) where
  settled _ := h.2
  sweep hne := (hne h.1).elim
  recorded := nofun
  left _ _ habove := .inr habove.notBelow
  known _ hb := .inl hb
  grown := .refl feed

theorem HeadStep.watched {origin : BiliFeed} {start : Option Pubdate} {w v : HeadWatch}
    {c : Option BiliScanCoverage} (h : HeadStep w c v) (hw : Watched origin start w) :
    Watched origin start v := by
  cases h with
  | grows hgrows => exact hw.grows hgrows
  | accepted hgrows hlast hrun => exact hw.accepted hgrows hlast hrun
  | refused hgrows hlast => exact hw.grows (feedAfter_grows hgrows hlast 0)

/-- When a head sweep ends, it has consumed every item above the old boundary
that was there when it listed the first page; the new boundary is the newest
date it saw, or the old one if that is newer; and of those items none that is
newer than the first boundary has been left out for good. -/
theorem bili_head_complete {feed : BiliFeed} {state : BiliScanState} (hstate : BetweenSweeps state)
    {w v : HeadWatch} {c : BiliScanCoverage}
    (hw : Reachable HeadStep (· = .begin feed state) w) (hstep : HeadStep w (some c) v)
    (hends : EndsHead c) :
    ∃ first, v.first = some first ∧
      (∀ x ∈ first.items, Above w.state.headBoundary x → x ∈ v.taken) ∧
      v.state.headBoundary = [w.state.headBoundary, newest v.observed].reduceOption.max? ∧
      ((∀ b, state.headBoundary = some b → ∃ y ∈ feed.items, b ≤ y.pubdate) →
        v.state.headBoundary = newest v.observed) ∧
      ∀ x ∈ first.items, Above state.headBoundary x → x ∈ v.ever := by
  have hwatched : Watched feed state.headBoundary w := by
    refine hw.invariant (I := Watched feed state.headBoundary) (fun u hu => ?_)
      (fun _ _ _ hu hstep => hstep.watched hu)
    subst hu
    exact watched_begin hstate
  cases hstep with
  | accepted hgrows hlast hrun =>
    obtain ⟨first, hfirst, horigin, hnow, hknown, hunit⟩ :=
      accepted_head hwatched hgrows hlast hrun hends.1
    obtain ⟨_, hastate, hafirst, hataken, haobserved, haever⟩ :=
      after_head w _ _ hends.1
    have hsweep : SweepEnds first w.state.headBoundary (w.before.1 ++ c.consumed)
        (w.before.2 ++ c.pages.flatMap BiliPage.identities) c.nextState.headBoundary := by
      cases hunit with
      | restarted hr =>
        rcases hends.2 with h | h
        · exact absurd (hr.symm.trans h) nofun
        · exact absurd (hr.symm.trans h) nofun
      | stays hr =>
        rcases hr with hr | hr
        · exact absurd hends.2 (by rw [hr]; simp)
        · exact absurd hends.2 (by rw [hr]; simp)
      | ended _ _ _ hsweep => exact hsweep
    rw [hafirst, hataken, haobserved, haever, hastate]
    refine ⟨first, hfirst, fun x hx habove => hsweep.taken x hx habove.notBelow, hsweep.next,
      fun hground => ?_, fun x hx habove => ?_⟩
    · rw [hsweep.next]
      cases hboundary : w.state.headBoundary with
      | none => cases newest (w.before.2 ++ c.pages.flatMap BiliPage.identities) <;> rfl
      | some b =>
        -- the old boundary is not above what the sweep saw
        obtain ⟨y, hy, hby⟩ : ∃ y ∈ first.items, b ≤ y.pubdate := by
          rcases hknown b hboundary with hb | hb
          · obtain ⟨y, hy, hby⟩ := hground b hb
            exact ⟨y, horigin.mem hy, hby⟩
          · exact hb
        obtain ⟨x, hx, hyx⟩ := hsweep.seen y hy
        cases hnewest : newest (w.before.2 ++ c.pages.flatMap BiliPage.identities) with
        | none =>
          unfold newest at hnewest
          rw [List.max?_eq_none_iff, List.map_eq_nil_iff] at hnewest
          rw [hnewest] at hx
          cases hx
        | some d =>
          have hxd := (newest_eq_some.mp hnewest).2 x hx
          exact congrArg some (max_eq_right (le_trans hby (le_trans hyx hxd)))
    · rcases ended_ever hwatched hsweep hnow (feedAfter_grows hgrows hlast 0) hx habove with h | h
      · exact List.mem_append_left _ h
      · rcases List.mem_append.mp h with h | h
        · exact List.mem_append_left _ (before_recorded hwatched h)
        · exact List.mem_append_right _ h

instance (c : BiliScanCoverage) : Decidable (EndsHead c) :=
  inferInstanceAs (Decidable (_ ∧ _))

/-- The oldest of four uploads. -/
def headFeed (uploads : Nat) : BiliFeed where
  items := ([biliSampleItem "4" "BV1xx411c7mW" 40 (by decide) (by decide),
    biliSampleItem "3" "BV1xx411c7mE" 30 (by decide) (by decide),
    biliSampleItem "2" "BV1xx411c7mQ" 20 (by decide) (by decide),
    biliSampleItem "1" "BV1xx411c7mD" 10 (by decide) (by decide)] :
      List BiliIdentity).drop (4 - uploads)
  aids := List.Nodup.sublist (List.Sublist.map _ (List.drop_sublist _ _)) (by decide)
  bvids := List.Nodup.sublist (List.Sublist.map _ (List.drop_sublist _ _)) (by decide)
  sorted := List.Pairwise.sublist (List.drop_sublist _ _) (by decide)
  bounded := by
    simp only [List.length_drop, List.length_cons, List.length_nil]
    omega

theorem headFeed_grows {m n : Nat} (h : m ≤ n) : (headFeed m).Grows (headFeed n) := by
  unfold BiliFeed.Grows headFeed
  dsimp only
  rw [show 4 - m = (4 - n) + (min n 4 - min m 4) by omega, ← List.drop_drop]
  exact List.drop_suffix _ _

/-- An upload may come after the first list request of a unit. -/
def serveTwo (m n : Nat) : Nat → BiliFeed
  | 0 => headFeed m
  | _ => headFeed n

def HeadWatch.runUnit (w : HeadWatch) (m n maxItems : Nat) : HeadWatch :=
  match runBiliUnit (serveTwo m n) w.state maxItems with
  | .ok c => w.after (serveTwo m n) c (headFeed n)
  | .error _ => { w with feed := headFeed n }

section Sample

variable {w : HeadWatch} {k m n : Nat}

theorem serveTwo_grows (hfeed : w.feed = headFeed k) (hkm : k ≤ m) (hmn : m ≤ n) :
    (∀ i, (feedAfter w.feed (serveTwo m n) i).Grows (serveTwo m n i)) ∧
      ∀ i, (serveTwo m n i).Grows (headFeed n) := by
  refine ⟨fun i => ?_, fun i => ?_⟩
  · rcases i with _ | _ | i
    · exact hfeed ▸ headFeed_grows hkm
    · exact headFeed_grows hmn
    · exact .refl _
  · cases i with
    | zero => exact headFeed_grows hmn
    | succ i => exact .refl _

theorem runUnit_step (hfeed : w.feed = headFeed k) (hkm : k ≤ m) (hmn : m ≤ n) (maxItems : Nat) :
    (w.runUnit m n maxItems).feed = headFeed n ∧
      ∃ c, HeadStep w c (w.runUnit m n maxItems) := by
  obtain ⟨hgrows, hlast⟩ := serveTwo_grows hfeed hkm hmn
  unfold HeadWatch.runUnit
  cases hrun : runBiliUnit (serveTwo m n) w.state maxItems with
  | error e => exact ⟨rfl, none, .refused hgrows hlast hrun⟩
  | ok c =>
    refine ⟨?_, some c, .accepted hgrows hlast hrun⟩
    dsimp only
    unfold HeadWatch.after
    split
    · rfl
    · dsimp only
      split <;> rfl

theorem reachable_runUnit {feed : BiliFeed} {state : BiliScanState}
    (hw : Reachable HeadStep (· = .begin feed state) w) (hfeed : w.feed = headFeed k)
    (hkm : k ≤ m) (hmn : m ≤ n) (maxItems : Nat) :
    Reachable HeadStep (· = .begin feed state) (w.runUnit m n maxItems) ∧
      (w.runUnit m n maxItems).feed = headFeed n := by
  obtain ⟨hafter, c, hstep⟩ := runUnit_step hfeed hkm hmn maxItems
  obtain ⟨s, h, hs, htrace⟩ := hw
  exact ⟨⟨s, _, hs, htrace.snoc hstep⟩, hafter⟩

/-- The unit that ends a sweep, as a step. -/
theorem runUnit_ends (hfeed : w.feed = headFeed k) (hkm : k ≤ m) (hmn : m ≤ n) (maxItems : Nat)
    (hends : (match runBiliUnit (serveTwo m n) w.state maxItems with
      | .ok c => decide (EndsHead c)
      | .error _ => false) = true) :
    ∃ c, EndsHead c ∧ HeadStep w (some c) (w.runUnit m n maxItems) := by
  obtain ⟨hgrows, hlast⟩ := serveTwo_grows hfeed hkm hmn
  unfold HeadWatch.runUnit
  cases hrun : runBiliUnit (serveTwo m n) w.state maxItems with
  | error e =>
    rw [hrun] at hends
    cases hends
  | ok c =>
    rw [hrun] at hends
    exact ⟨c, of_decide_eq_true hends, .accepted hgrows hlast hrun⟩

end Sample

/-- The state after a sweep of the two oldest uploads. -/
def sweptState : BiliScanState :=
  match runBiliUnit (serveTwo 2 2) (.initial ⟨"a", "b", "c"⟩) 5 with
  | .ok c => c.nextState
  | .error _ => .initial ⟨"a", "b", "c"⟩

theorem sweptState_between : BetweenSweeps sweptState := ⟨by decide +kernel, by decide +kernel⟩

/-- Before its last unit: the third upload came before the first unit, the fourth
within the second one, which starts again; a head unit then took the fourth. -/
def sampleWatch : HeadWatch :=
  (((((HeadWatch.begin (headFeed 2) sweptState).runUnit 3 3 1).runUnit 3 4 5).runUnit 4 4 1).runUnit
    4 4 1).runUnit 4 4 1

theorem bili_head_complete_sample :
    ∃ (c : BiliScanCoverage) (v : HeadWatch) (first : BiliFeed), EndsHead c ∧
      sampleWatch.state.headBoundary.map (·.val) = some 20 ∧
      v.state.headBoundary.map (·.val) = some 40 ∧ v.taken.map (·.aid) = ["4", "3", "2"] ∧
      v.first = some first ∧
      (∀ x ∈ first.items, Above sampleWatch.state.headBoundary x → x ∈ v.taken) ∧
      v.state.headBoundary =
        [sampleWatch.state.headBoundary, newest v.observed].reduceOption.max? ∧
      v.state.headBoundary = newest v.observed ∧
      ∀ x ∈ first.items, Above sweptState.headBoundary x → x ∈ v.ever := by
  have hbegin : Reachable HeadStep (· = .begin (headFeed 2) sweptState)
      (.begin (headFeed 2) sweptState) := ⟨_, [], rfl, .nil⟩
  obtain ⟨h₁, hfeed₁⟩ := reachable_runUnit (k := 2) (m := 3) (n := 3) hbegin rfl (by decide)
    (by decide) 1
  obtain ⟨h₂, hfeed₂⟩ := reachable_runUnit (m := 3) (n := 4) h₁ hfeed₁ (by decide) (by decide) 5
  obtain ⟨h₃, hfeed₃⟩ := reachable_runUnit (m := 4) (n := 4) h₂ hfeed₂ (by decide) (by decide) 1
  obtain ⟨h₄, hfeed₄⟩ := reachable_runUnit (m := 4) (n := 4) h₃ hfeed₃ (by decide) (by decide) 1
  obtain ⟨h₅, hfeed₅⟩ := reachable_runUnit (m := 4) (n := 4) h₄ hfeed₄ (by decide) (by decide) 1
  obtain ⟨c, hends, hstep⟩ := runUnit_ends (w := sampleWatch) (m := 4) (n := 4) hfeed₅ (by decide)
    (by decide) 5 (by decide +kernel)
  obtain ⟨first, hfirst, htaken, hnext, hnewest, hever⟩ :=
    bili_head_complete sweptState_between h₅ hstep hends
  exact ⟨c, _, first, hends, by decide +kernel, by decide +kernel, by decide +kernel, hfirst, htaken,
    hnext, hnewest (by decide +kernel), hever⟩

/-- The newest upload is deleted between two sweeps: the boundary stays where it
was, above everything that the next sweep sees. -/
theorem deleted_upload_keeps_boundary :
    ∃ (w v : HeadWatch) (c : BiliScanCoverage), sweptState.headBoundary.map (·.val) = some 20 ∧
      Reachable HeadStep (· = .begin (headFeed 1) sweptState) w ∧ HeadStep w (some c) v ∧
      EndsHead c ∧ v.state.headBoundary.map (·.val) = some 20 ∧
      (newest v.observed).map (·.val) = some 10 := by
  have hbegin : Reachable HeadStep (· = .begin (headFeed 1) sweptState)
      (.begin (headFeed 1) sweptState) := ⟨_, [], rfl, .nil⟩
  obtain ⟨h₁, hfeed₁⟩ := reachable_runUnit (k := 1) (m := 1) (n := 1) hbegin rfl (by decide)
    (by decide) 1
  obtain ⟨c, hends, hstep⟩ := runUnit_ends (m := 1) (n := 1) hfeed₁ (by decide) (by decide) 5
    (by decide +kernel)
  exact ⟨_, _, c, by decide +kernel, h₁, hstep, hends, by decide +kernel, by decide +kernel⟩

end MediaSync.Scan
