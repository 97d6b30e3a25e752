import FlightRelay.Proofs.Entries
import FlightRelay.Proofs.Router.Outcome

/-!
# What the store keeps

A record that is written comes after those that are there and touches no route; a route is saved for its
user alone, and saving it again changes nothing.
-/

namespace FlightRelay

namespace Store

variable {s t : Store} {d : Data} {user other : UserId} {route : Route} {record : DispatchRecord}

/-! ## Routes -/

/-- Saving a route leaves the routes of every other user alone. -/
theorem routesOf_saveRoute_of_ne (h : other ≠ user) :
    (d.saveRoute user route).routesOf other = d.routesOf other := by
  have hne : (other == user) = false := beq_eq_false_iff_ne.mpr h
  unfold Data.saveRoute Data.routesOf
  dsimp only
  split
  · rw [lookup_replace, if_neg h]
  · rw [List.lookup_append, List.lookup_cons, hne, List.lookup_nil, Option.or_none]

/-- A route that is put in its place twice is put there once. -/
theorem upsert_upsert (routes : List Route) :
    Data.upsert (Data.upsert routes route) route = Data.upsert routes route := by
  induction routes with
  | nil => exact if_pos rfl
  | cons r routes ih =>
    rw [Data.upsert]
    split
    · exact if_pos rfl
    · rename_i hname
      rw [Data.upsert, if_neg hname, ih]

/-- A route is placed among those of its user. -/
theorem saveRoute_eq : d.saveRoute user route
    = ⟨placed (fun e => e.1 = user) (user, Data.upsert (d.routesOf user) route) d.routes, d.records⟩ := by
  unfold Data.saveRoute placed
  split <;> rfl

/-- Saving a route is putting it among the routes of its user. -/
theorem routesOf_saveRoute :
    (d.saveRoute user route).routesOf user = Data.upsert (d.routesOf user) route := by
  rw [Data.routesOf, saveRoute_eq]
  generalize Data.upsert (d.routesOf user) route = saved
  unfold placed
  dsimp only
  split
  · rename_i hany
    obtain ⟨e, he, huser⟩ := List.any_eq_true.mp hany
    rw [lookup_replace, if_pos rfl]
    cases hlookup : d.routes.lookup user with
    | some routes => rfl
    | none =>
      have hother := List.lookup_eq_none_iff.mp hlookup e he
      rw [of_decide_eq_true huser, bne_self_eq_false] at hother
      cases hother
  · rename_i hnone
    have hlookup : d.routes.lookup user = none := by
      refine List.lookup_eq_none_iff.mpr fun e he => bne_iff_ne.mpr fun huser => hnone ?_
      exact List.any_eq_true.mpr ⟨e, he, decide_eq_true huser.symm⟩
    rw [List.lookup_append, hlookup, Option.none_or, List.lookup_cons_self, Option.getD_some]

/-- Saving a route again changes nothing. -/
theorem saveRoute_saveRoute : (d.saveRoute user route).saveRoute user route = d.saveRoute user route := by
  rw [saveRoute_eq, routesOf_saveRoute, upsert_upsert]
  conv_lhs => rw [saveRoute_eq]
  conv_rhs => rw [saveRoute_eq]
  have hplaced := placed_placed (p := fun e : UserId × List Route => e.1 = user)
    (a := (user, Data.upsert (d.routesOf user) route)) rfl d.routes
  exact congrArg (fun routes => Data.mk routes d.records) hplaced

/-! ## Transactions -/

/-- Two calls in turn succeed if the first does and the second does on what the first gives. -/
theorem bind_eq_ok {α β : Type} {a : Except StoreError α} {f : α → Except StoreError β} {b : β} :
    a >>= f = .ok b ↔ ∃ x, a = .ok x ∧ f x = .ok b := by
  cases a with
  | ok x =>
    constructor
    · intro h
      exact ⟨x, rfl, h⟩
    · rintro ⟨y, hy, h⟩
      obtain rfl := Except.ok.inj hy
      exact h
  | error e =>
    constructor
    · intro h
      cases h
    · rintro ⟨y, hy, -⟩
      cases hy

/-- A call is served without an outage. -/
theorem served_eq_ok {outage : Option StoreError} {u : Unit} :
    served outage = .ok u ↔ outage = none := by
  cases outage with
  | none => simp [served]
  | some e => simp [served]

/-- A transaction opens unless the store is out. -/
theorem begin_eq_ok {w : Transaction} : s.begin = .ok w ↔ s.outages.begin = none ∧ w = ⟨[], []⟩ := by
  simp only [begin, bind_eq_ok, served_eq_ok, exists_const]
  constructor
  · rintro ⟨hserved, hopen⟩
    exact ⟨hserved, (Except.ok.inj hopen).symm⟩
  · rintro ⟨hserved, rfl⟩
    exact ⟨hserved, rfl⟩

/-- A record is staged unless there is an outage. -/
theorem recordDispatch_eq_ok {w w' : Transaction} :
    s.recordDispatch w record = .ok w'
      ↔ s.outages.recordDispatch = none ∧ w' = { w with records := w.records ++ [record] } := by
  simp only [recordDispatch, bind_eq_ok, served_eq_ok, exists_const]
  constructor
  · rintro ⟨hserved, hstaged⟩
    exact ⟨hserved, (Except.ok.inj hstaged).symm⟩
  · rintro ⟨hserved, rfl⟩
    exact ⟨hserved, rfl⟩

/-- A route is staged after all others, if its name is not blank. -/
theorem saveRoute_eq_ok {w w' : Transaction} :
    s.saveRoute w user route = .ok w' ↔ s.outages.saveRoute = none ∧
      Text.isAllBlank route.name = false ∧ w' = { w with routes := w.routes ++ [(user, route)] } := by
  simp only [saveRoute, bind_eq_ok, served_eq_ok, exists_const]
  constructor
  · rintro ⟨hserved, hstaged⟩
    split at hstaged
    · cases hstaged
    · rename_i hname
      exact ⟨hserved, Bool.eq_false_iff.mpr hname, (Except.ok.inj hstaged).symm⟩
  · rintro ⟨hserved, hname, rfl⟩
    rw [hname]
    exact ⟨hserved, rfl⟩

/-- A transaction takes effect unless commits are refused. -/
theorem commit_eq_ok {w : Transaction} :
    s.commit w = .ok t ↔ s.refusesCommits = false ∧ t = { s with data := s.data.apply w } := by
  unfold commit
  cases s.refusesCommits with
  | true => simp
  | false => simp [eq_comm]

/-! ## Records and routes -/

/-- The store serves the calls that make up the writing of a record. -/
structure TakesRecords (s : Store) : Prop where
  begin : s.outages.begin = none
  recordDispatch : s.outages.recordDispatch = none
  commits : s.refusesCommits = false

/-- The store with one more record. -/
def withRecord (s : Store) (record : DispatchRecord) : Store :=
  { s with data := { s.data with records := s.data.records ++ [record] } }

/-- A record is written after all others, if the store takes it. -/
theorem storeRecord_eq_ok :
    Handler.storeRecord s record = .ok t ↔ s.TakesRecords ∧ t = s.withRecord record := by
  simp only [Handler.storeRecord, bind_eq_ok, begin_eq_ok, recordDispatch_eq_ok, commit_eq_ok]
  constructor
  · rintro ⟨w, ⟨hbegin, rfl⟩, w', ⟨hstage, rfl⟩, hcommit, rfl⟩
    exact ⟨⟨hbegin, hstage, hcommit⟩, rfl⟩
  · rintro ⟨htakes, rfl⟩
    exact ⟨_, ⟨htakes.begin, rfl⟩, _, ⟨htakes.recordDispatch, rfl⟩, htakes.commits, rfl⟩

/-- A record touches no route, whether it is written or not. -/
theorem routes_noted : (s.noted record).data.routes = s.data.routes := by
  unfold noted
  split
  · rename_i hwritten
    rw [(storeRecord_eq_ok.mp hwritten).2]
    rfl
  · rfl

/-- A stored route is saved among the others, and nothing else is changed. -/
theorem eq_of_storeRoute (h : Handler.storeRoute s user route = .ok t) :
    t = { s with data := s.data.saveRoute user route } := by
  obtain ⟨w, hbegin, h⟩ := bind_eq_ok.mp h
  obtain ⟨w', hsave, hcommit⟩ := bind_eq_ok.mp h
  obtain ⟨-, rfl⟩ := begin_eq_ok.mp hbegin
  obtain ⟨-, rfl⟩ := commit_eq_ok.mp hcommit
  obtain ⟨-, -, rfl⟩ := saveRoute_eq_ok.mp hsave
  unfold Data.apply
  simp only [List.nil_append, List.foldl_cons, List.foldl_nil, List.append_nil]

/-- A route that is stored for one user leaves the routes of every other user alone. -/
theorem routesOf_storeRoute_of_ne (h : Handler.storeRoute s user route = .ok t)
    (hne : other ≠ user) : t.data.routesOf other = s.data.routesOf other := by
  rw [eq_of_storeRoute h]
  exact routesOf_saveRoute_of_ne hne

/-- Storing a route again changes nothing. -/
theorem eq_of_storeRoute_again {u : Store} (h : Handler.storeRoute s user route = .ok t)
    (h' : Handler.storeRoute t user route = .ok u) : u = t := by
  rw [eq_of_storeRoute h', eq_of_storeRoute h]
  simp only [saveRoute_saveRoute]

end Store

end FlightRelay
