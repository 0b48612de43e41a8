import MediaSync.Observability.LogPages

/-!
# Queries that nothing disturbs

While a query is at work no segment is sealed and no call fails. Then it finds
everything but the files without a header, and it gives the page that its cursor
asks for, unless the time is up before it has begun to read.
-/

namespace MediaSync.Observability

open Python JsonText Events
open Program Observability.Shelf

variable {host : QueryHost} {marker : Marker} {shelf : Shelf host.toLogHost marker}

/-! ## Calls -/

section

variable {α β : Type} {t u : shelf.State} {h : List (Exchange QueryCall QueryCall.Reply)}
  {x : Except QueryError α}

variable {s : StoredSegment host.toLogHost marker}

/-- The program raises nothing but that the time was up. -/
def Limited (m : QueryProg α) : Prop :=
  Yields (fun _ => True) (fun x => ∀ e, x = .error e → e = .code .scanLimited) m

theorem Limited.bind {m : QueryProg α} {f : α → QueryProg β} (hm : Limited m)
    (hf : ∀ a, Limited (f a)) : Limited (m >>= f) :=
  Yields.bind hm (fun a _ => hf a) fun e he e' he' => by
    cases he'
    exact he e rfl

variable {selected : Filters} {limit : Nat} {scan : LogQuery.Scan} {v : LogSegment × Nat}

variable {key : Text} {i : Nat} {cursor : Option Text}
  {rest : List (StoredSegment host.toLogHost marker)}

end

end MediaSync.Observability
