import FlightRelay.Proofs.Store

/-!
# Staged writes

A transaction is a list of writes that wait.  It takes effect as the writes do one after the other, and
what it shows of a user's routes before is what the user has afterwards.
-/

namespace FlightRelay

/-- Nothing is left of a text when it is trimmed just if it holds nothing but blanks. -/
theorem Text.trim_eq_empty_iff {s : String} : Text.trim s = "" ↔ Text.isAllBlank s = true := by
  have hchars : ∀ cs : List Char, Text.trimChars cs = [] ↔ ∀ c ∈ cs, Text.isBlank c = true := by
    intro cs
    unfold Text.trimChars
    rw [List.reverse_eq_nil_iff, List.dropWhile_eq_nil_iff]
    constructor
    · intro h
      rw [← List.dropWhile_eq_nil_iff]
      cases hdrop : cs.dropWhile Text.isBlank with
      | nil => rfl
      | cons c rest =>
        -- the first character that is kept is not blank
        have hkept := List.head?_dropWhile_not Text.isBlank cs
        rw [hdrop] at hkept h
        have hblank := h c (by simp)
        simp [hblank] at hkept
    · intro h c hc
      rw [List.dropWhile_eq_nil_iff.mpr h] at hc
      cases hc
  rw [Text.trim, String.ofList_eq_empty_iff, hchars, Text.isAllBlank, List.all_eq_true]

namespace Store

/-! ## Routes that were saved one after the other -/

section Saved

variable {routes saves : List Route} {route r : Route}

/-- A route that is saved takes the place of the one of its name, and else comes last. -/
theorem names_upsert : (Data.upsert routes route).map Route.name
    = if route.name ∈ routes.map Route.name then routes.map Route.name
      else routes.map Route.name ++ [route.name] := by
  induction routes with
  | nil => rfl
  | cons r routes ih =>
    rw [Data.upsert]
    by_cases hname : r.name = route.name
    · rw [if_pos hname, List.map_cons, List.map_cons, hname, if_pos List.mem_cons_self]
    · rw [if_neg hname, List.map_cons, List.map_cons, ih]
      simp only [List.mem_cons, Ne.symm hname, false_or]
      split <;> rfl

/-- Where no name comes twice, nothing of the name is left of what was there before. -/
theorem mem_upsert (distinct : (routes.map Route.name).Nodup) (hr : r ∈ Data.upsert routes route) :
    r = route ∨ r ∈ routes ∧ r.name ≠ route.name := by
  induction routes with
  | nil => exact .inl (List.mem_singleton.mp hr)
  | cons first routes ih =>
    obtain ⟨hfirst, hrest⟩ := List.nodup_cons.mp distinct
    rw [Data.upsert] at hr
    split at hr
    · rename_i hname
      obtain rfl | hmem := List.mem_cons.mp hr
      · exact .inl rfl
      · -- the others have other names than the first
        refine .inr ⟨List.mem_cons_of_mem _ hmem, fun he => hfirst ?_⟩
        rw [hname, ← he]
        exact List.mem_map_of_mem hmem
    · rename_i hname
      obtain rfl | hmem := List.mem_cons.mp hr
      · exact .inr ⟨List.mem_cons_self, hname⟩
      · exact (ih hrest hmem).imp_right fun h => ⟨List.mem_cons_of_mem _ h.1, h.2⟩

/-- A name that is seen again has its place already. -/
theorem eraseDups_concat (names : List String) (name : String) :
    (names ++ [name]).eraseDups
      = if name ∈ names then names.eraseDups else names.eraseDups ++ [name] := by
  rw [List.eraseDups_append]
  by_cases hname : name ∈ names
  · simp [List.removeAll, hname]
  · simp [List.removeAll, hname, List.eraseDups_cons]

/-- What is left of routes that were saved one after the other: each name stands where it first came, and
with it the route that was saved last. -/
structure Kept (saves routes : List Route) : Prop where
  places : routes.map Route.name = (saves.map Route.name).eraseDups
  distinct : (routes.map Route.name).Nodup
  last : ∀ r ∈ routes, (saves.filter fun s => s.name = r.name).getLast? = some r

/-- Without saves there are no routes. -/
theorem kept_nil : Kept [] [] := ⟨rfl, List.nodup_nil, fun _ hr => by cases hr⟩

/-- One more save is kept in place of the one of its name. -/
theorem Kept.upsert (h : Kept saves routes) (route : Route) :
    Kept (saves ++ [route]) (Data.upsert routes route) := by
  have hmem : route.name ∈ routes.map Route.name ↔ route.name ∈ saves.map Route.name := by
    rw [h.places, List.mem_eraseDups]
  constructor
  · rw [names_upsert, List.map_append, List.map_singleton, eraseDups_concat, ← h.places]
    simp only [hmem]
  · rw [names_upsert]
    split
    · exact h.distinct
    · rename_i hfresh
      rw [List.nodup_append]
      refine ⟨h.distinct, List.nodup_singleton _, ?_⟩
      intro a ha b hb hab
      rw [List.mem_singleton.mp hb] at hab
      exact hfresh (hab ▸ ha)
  · intro r hr
    rw [List.filter_append]
    rcases mem_upsert h.distinct hr with rfl | ⟨hr, hname⟩
    · simp [List.getLast?_append]
    · simp only [Ne.symm hname, decide_false, Bool.false_eq_true, not_false_eq_true,
        List.filter_cons_of_neg, List.filter_nil, List.append_nil]
      exact h.last r hr

/-- Saving routes in turn leaves each name once, in its first place and with its last route. -/
theorem kept_foldl (h : Kept saves routes) (more : List Route) :
    Kept (saves ++ more) (more.foldl Data.upsert routes) := by
  induction more generalizing saves routes with
  | nil => rwa [List.append_nil]
  | cons route more ih =>
    have hmore := ih (h.upsert route)
    rwa [List.append_assoc] at hmore

end Saved

/-! ## Writes -/

/-- A write that waits for the commit of its transaction. -/
inductive Write where
  | save (user : UserId) (route : Route)
  | note (record : DispatchRecord)

namespace Write

/-- The route that is saved, with its user. -/
def route? : Write → Option (UserId × Route)
  | .save user route => some (user, route)
  | .note _ => none

/-- The route that is saved for a user. -/
def routeOf? (user : UserId) : Write → Option Route
  | .save owner route => if owner = user then some route else none
  | .note _ => none

/-- The record that is written. -/
def record? : Write → Option DispatchRecord
  | .save _ _ => none
  | .note record => some record

/-- A route has a name. -/
def isNamed : Write → Bool
  | .save _ route => !Text.isAllBlank route.name
  | .note _ => true

/-- The data after the write. -/
def apply (d : Data) : Write → Data
  | .save user route => d.saveRoute user route
  | .note record => { d with records := d.records ++ [record] }

end Write

/-- The transaction that has staged these writes. -/
def staging (ws : List Write) : Transaction := ⟨ws.filterMap Write.route?, ws.filterMap Write.record?⟩

/-- Stages one more write. -/
def stage (s : Store) (t : Transaction) : Write → Except StoreError Transaction
  | .save user route => s.saveRoute t user route
  | .note record => s.recordDispatch t record

/-- The routes of a user as a transaction with these writes sees them. -/
def Data.seen (d : Data) (ws : List Write) (user : UserId) : List Route :=
  (ws.filterMap (Write.routeOf? user)).foldl Data.upsert (d.routesOf user)

section Writes

variable {s : Store} {d : Data} {w : Write} {ws : List Write} {user : UserId}

/-- Records and routes do not meet. -/
theorem foldl_saveRoute_records (routes : List (UserId × Route)) (d : Data)
    (records : List DispatchRecord) :
    routes.foldl (fun d (user, route) => d.saveRoute user route) { d with records }
      = { routes.foldl (fun d (user, route) => d.saveRoute user route) d with records } := by
  induction routes generalizing d with
  | nil => rfl
  | cons e routes ih =>
    obtain ⟨user, route⟩ := e
    have hsave : Data.saveRoute { d with records } user route
        = { d.saveRoute user route with records } := by
      rw [saveRoute_eq, saveRoute_eq]
      rfl
    simp only [List.foldl_cons]
    rw [hsave, ih]

/-- Routes that are saved touch no record. -/
theorem records_foldl_saveRoute (routes : List (UserId × Route)) (d : Data) :
    (routes.foldl (fun d (user, route) => d.saveRoute user route) d).records = d.records := by
  have h := foldl_saveRoute_records routes d d.records
  rw [h]

/-- A transaction takes effect as its writes do, one after the other. -/
theorem apply_staging : d.apply (staging ws) = ws.foldl Write.apply d := by
  induction ws generalizing d with
  | nil => simp [staging, Data.apply]
  | cons w ws ih =>
    rw [List.foldl_cons, ← ih]
    cases w with
    | save user route => rfl
    | note record =>
      simp only [Data.apply, staging, Write.apply, List.filterMap_cons, Write.route?, Write.record?,
        foldl_saveRoute_records, records_foldl_saveRoute, List.append_assoc, List.singleton_append]

/-- After the writes, a user has the routes that were seen with them. -/
theorem routesOf_foldl_apply : (ws.foldl Write.apply d).routesOf user = d.seen ws user := by
  induction ws generalizing d with
  | nil => rfl
  | cons w ws ih =>
    rw [List.foldl_cons, ih]
    cases w with
    | note record => rfl
    | save owner route =>
      by_cases howner : owner = user
      · subst howner
        simp [Data.seen, Write.routeOf?, Write.apply, routesOf_saveRoute]
      · simp [Data.seen, Write.routeOf?, Write.apply, howner, routesOf_saveRoute_of_ne (Ne.symm howner)]

/-- What a transaction loads is what it sees. -/
theorem loadRoutes_staging (h : s.outages.loadRoutes = none) :
    s.loadRoutes (staging ws) user = .ok (s.data.seen ws user) := by
  have hown : ∀ (routes : List Route),
      ((staging ws).routes.filter (·.1 = user)).foldl (fun routes e => Data.upsert routes e.2) routes
        = (ws.filterMap (Write.routeOf? user)).foldl Data.upsert routes := by
    intro routes
    induction ws generalizing routes with
    | nil => rfl
    | cons w ws ih =>
      cases w with
      | note record => exact ih routes
      | save owner route =>
        by_cases howner : owner = user
        · have hstep := ih (Data.upsert routes route)
          simpa [staging, Write.route?, Write.routeOf?, howner] using hstep
        · have hstep := ih routes
          simpa [staging, Write.route?, Write.routeOf?, howner] using hstep
  have hload : s.loadRoutes (staging ws) user = (served s.outages.loadRoutes).map fun _ =>
      ((staging ws).routes.filter (·.1 = user)).foldl (fun routes e => Data.upsert routes e.2)
        (s.data.routesOf user) := by
    unfold loadRoutes
    cases served s.outages.loadRoutes <;> rfl
  rw [hload, h, hown]
  rfl

/-- A write is staged after all others, unless it is a route without a name. -/
theorem stage_staging (h : s.outages = .none) :
    s.stage (staging ws) w
      = if w.isNamed then .ok (staging (ws ++ [w])) else .error (.invalid "route name is empty") := by
  cases w with
  | save user route =>
    cases hname : Text.isAllBlank route.name with
    | true =>
      unfold stage saveRoute
      simp only [h, hname, Write.isNamed]
      rfl
    | false =>
      rw [if_pos (by simp [Write.isNamed, hname])]
      refine saveRoute_eq_ok.mpr ⟨congrArg Outages.saveRoute h, hname, ?_⟩
      simp [staging, Write.route?, Write.record?]
  | note record =>
    have hnamed : (Write.note record).isNamed = true := rfl
    rw [if_pos hnamed]
    refine recordDispatch_eq_ok.mpr ⟨congrArg Outages.recordDispatch h, ?_⟩
    simp [staging, Write.route?, Write.record?]

end Writes

end Store

end FlightRelay
