import FlightRelay.Proofs.Store.Writes
import Mathlib.Logic.Function.Basic

/-!
# Transactions side by side

Any number of transactions may be open on a store, and their calls come in any order.  A commit has two
sections: it looks whether commits are refused, and then its writes take effect together.  What is
committed is what the transactions that have landed would leave if they were carried out one after the
other, in the order of landing, and a transaction sees the committed routes with its own.
-/

namespace FlightRelay

namespace Store

/-! ## The two sections of a commit -/

/-- First section of a commit: it is refused if commits are. -/
def allowCommit (s : Store) : Except StoreError Unit :=
  if s.refusesCommits then .error (.commit "backend refused the write") else .ok ()

/-- Second section of a commit: the writes take effect together. -/
def land (s : Store) (t : Transaction) : Store := { s with data := s.data.apply t }

/-- A commit without anything between its sections. -/
theorem commit_eq (s : Store) (t : Transaction) : s.commit t = s.allowCommit.map fun _ => s.land t := by
  unfold commit allowCommit land
  split <;> rfl

/-! ## Many transactions -/

/-- How far a transaction has come. -/
inductive Stage where
  /-- It was not begun, or it is over. -/
  | absent
  | opened (t : Transaction)
  /-- Its commit was admitted and has not taken effect yet. -/
  | landing (t : Transaction)

/-- The writes that a transaction has staged. -/
def Stage.transaction? : Stage → Option Transaction
  | .absent => none
  | .opened t | .landing t => some t

/-- The transaction, if it takes calls. -/
def Stage.opened? : Stage → Option Transaction
  | .opened t => some t
  | _ => none

/-- The transaction, if its commit is to take effect. -/
def Stage.landing? : Stage → Option Transaction
  | .landing t => some t
  | _ => none

theorem Stage.opened?_eq_some {stage : Stage} {t : Transaction} :
    stage.opened? = some t ↔ stage = .opened t := by
  cases stage <;> simp [opened?]

theorem Stage.landing?_eq_some {stage : Stage} {t : Transaction} :
    stage.landing? = some t ↔ stage = .landing t := by
  cases stage <;> simp [landing?]

/-- A store with its transactions, which are numbered in the order in which they begin. -/
structure Exchange where
  store : Store
  /-- Number of the next transaction. -/
  next : Nat
  stage : Nat → Stage

/-- What is done next, for the transaction of a number or to the store. -/
inductive Act where
  | begin
  | write (tx : Nat) (w : Write)
  | loadRoutes (tx : Nat) (user : UserId)
  /-- The first section of a commit. -/
  | commit (tx : Nat)
  /-- The second section of a commit. -/
  | land (tx : Nat)
  | rollback (tx : Nat)
  /-- From now on commits are refused, or no longer. -/
  | refuse (on : Bool)

/-- What an act is answered. -/
inductive Answer where
  | begun (tx : Nat)
  | done
  /-- The first section of a commit is over, and the second is to come. -/
  | admitted
  | routes (routes : List Route)
  | failed (e : StoreError)
  /-- There is no transaction that it could be for. -/
  | absent

namespace Exchange

/-- A fresh store without transactions. -/
def start : Exchange := ⟨.empty, 0, fun _ => .absent⟩

/-- Notes how far a transaction has come. -/
def put (x : Exchange) (tx : Nat) (stage : Stage) : Exchange :=
  { x with stage := Function.update x.stage tx stage }

/-- What one act is answered, and what it leaves. -/
def act (x : Exchange) : Act → Answer × Exchange
  | .begin =>
    match x.store.begin with
    | .ok t => (.begun x.next, { x.put x.next (.opened t) with next := x.next + 1 })
    | .error e => (.failed e, x)
  | .write tx w =>
    match (x.stage tx).opened? with
    | none => (.absent, x)
    | some t =>
      match x.store.stage t w with
      | .ok t => (.done, x.put tx (.opened t))
      | .error e => (.failed e, x)
  | .loadRoutes tx user =>
    match (x.stage tx).opened? with
    | none => (.absent, x)
    | some t =>
      match x.store.loadRoutes t user with
      | .ok routes => (.routes routes, x)
      | .error e => (.failed e, x)
  | .commit tx =>
    match (x.stage tx).opened? with
    | none => (.absent, x)
    | some t =>
      match x.store.allowCommit with
      | .ok () => (.admitted, x.put tx (.landing t))
      | .error e => (.failed e, x.put tx .absent)
  | .land tx =>
    match (x.stage tx).landing? with
    | none => (.absent, x)
    | some t => (.done, { x.put tx .absent with store := x.store.land t })
  | .rollback tx =>
    match (x.stage tx).opened? with
    | none => (.absent, x)
    | some _ => (.done, x.put tx .absent)
  | .refuse on => (.done, { x with store := { x.store with refusesCommits := on } })

/-- What acts in turn leave. -/
def after (x : Exchange) (acts : List Act) : Exchange := acts.foldl (fun x a => (x.act a).2) x

/-- What acts in turn are answered. -/
def history (x : Exchange) : List Act → List (Act × Answer)
  | [] => []
  | a :: acts => (a, (x.act a).1) :: (x.act a).2.history acts

end Exchange

/-! ## What a history says -/

/-- The write that a transaction has staged by an act. -/
def stagedBy? (tx : Nat) : Act × Answer → Option Write
  | (.write other w, .done) => if other = tx then some w else none
  | _ => none

/-- The transaction whose commit has returned with an act. -/
def landed? : Act × Answer → Option Nat
  | (.land tx, .done) => some tx
  | _ => none

/-- All writes that a transaction has staged, in order. -/
def staged (tx : Nat) (h : List (Act × Answer)) : List Write := h.filterMap (stagedBy? tx)

/-- The transactions whose commit has returned, in order. -/
def landed (h : List (Act × Answer)) : List Nat := h.filterMap landed?

/-- The routes of a user among the writes of the transactions that have landed, in order. -/
def saved (user : UserId) (h : List (Act × Answer)) : List Route :=
  (landed h).flatMap fun tx => (staged tx h).filterMap (Write.routeOf? user)

/-- The transactions that have landed, one after the other. -/
def serial (h : List (Act × Answer)) : Data :=
  (landed h).foldl (fun d tx => (staged tx h).foldl Write.apply d) ⟨[], []⟩

section Histories

variable {h h' : List (Act × Answer)} {deed : Act × Answer} {tx : Nat} {user : UserId}

@[simp] theorem staged_append : staged tx (h ++ h') = staged tx h ++ staged tx h' := List.filterMap_append

@[simp] theorem landed_append : landed (h ++ h') = landed h ++ landed h' := List.filterMap_append

/-- Only what has landed counts. -/
theorem serial_congr (hlanded : landed h' = landed h)
    (hstaged : ∀ tx ∈ landed h, staged tx h' = staged tx h) : serial h' = serial h := by
  unfold serial
  rw [hlanded]
  apply List.foldl_ext
  intro d tx htx
  rw [hstaged tx htx]

/-- The routes of a user after transactions in turn are those that they have saved. -/
theorem routesOf_serial : (serial h).routesOf user = (saved user h).foldl Data.upsert [] := by
  have hturn : ∀ (txs : List Nat) (d : Data),
      (txs.foldl (fun d tx => (staged tx h).foldl Write.apply d) d).routesOf user
        = (txs.flatMap fun tx => (staged tx h).filterMap (Write.routeOf? user)).foldl Data.upsert
            (d.routesOf user) := by
    intro txs
    induction txs with
    | nil => intro d; rfl
    | cons tx txs ih =>
      intro d
      rw [List.foldl_cons, ih, routesOf_foldl_apply, List.flatMap_cons, List.foldl_append]
      rfl
  exact hturn (landed h) ⟨[], []⟩

end Histories

/-! ## What one act can do -/

namespace Exchange

variable {x x' : Exchange} {h : List (Act × Answer)} {a : Act} {acts : List Act} {tx : Nat}

@[simp] theorem put_self (stage : Stage) : (x.put tx stage).stage tx = stage := by
  simp [put]

/-- A transaction that moves leaves the others at their stages. -/
theorem put_of_ne {other : Nat} (stage : Stage) (hne : other ≠ tx) :
    (x.put tx stage).stage other = x.stage other := by
  simp [put, hne]

/-- An open transaction that goes on to land, or is over, has written nothing more. -/
theorem held_put {other : Nat} {t : Transaction} {ws : List Write} {stage : Stage}
    (hopened : x.stage tx = .opened (staging ws))
    (hstage : stage = .absent ∨ stage = .landing (staging ws))
    (ht : ((x.put tx stage).stage other).transaction? = some t) :
    (x.stage other).transaction? = some t := by
  by_cases he : other = tx
  · subst he
    rw [put_self] at ht
    rcases hstage with rfl | rfl
    · cases ht
    · rw [hopened]
      exact ht
  · rwa [put_of_ne _ he] at ht

/-- Of two transactions one is absent and the other is not: they are two. -/
theorem ne_of_absent {other : Nat} {stage : Stage} (hstage : x.stage tx = stage)
    (hthere : stage ≠ .absent) (hother : x.stage other = .absent) : other ≠ tx := by
  rintro rfl
  exact hthere (hstage.symm.trans hother)

/-- What is absent stays so while another transaction goes on. -/
theorem absent_put {other : Nat} {stage stage' : Stage} (hstage : x.stage tx = stage)
    (hthere : stage ≠ .absent) (hother : x.stage other = .absent) :
    (x.put tx stage').stage other = .absent :=
  (put_of_ne _ (ne_of_absent hstage hthere hother)).trans hother

/-- All that an act can do where each transaction has staged the writes that `ws` gives. -/
inductive Acted (x : Exchange) (ws : Nat → List Write) : Act → Answer → Exchange → Prop
  | begun : Acted x ws .begin (.begun x.next)
      { x.put x.next (.opened (staging [])) with next := x.next + 1 }
  | wrote {tx : Nat} {w : Write} (opened : x.stage tx = .opened (staging (ws tx)))
      (named : w.isNamed = true) :
      Acted x ws (.write tx w) .done (x.put tx (.opened (staging (ws tx ++ [w]))))
  | admitted {tx : Nat} (opened : x.stage tx = .opened (staging (ws tx))) :
      Acted x ws (.commit tx) .admitted (x.put tx (.landing (staging (ws tx))))
  | landed {tx : Nat} (landing : x.stage tx = .landing (staging (ws tx))) :
      Acted x ws (.land tx) .done
        { x.put tx .absent with store := x.store.land (staging (ws tx)) }
  | ended {a : Act} {answer : Answer} {tx : Nat} (opened : x.stage tx = .opened (staging (ws tx)))
      (unstaged : ∀ tx, stagedBy? tx (a, answer) = none) (unlanded : landed? (a, answer) = none) :
      Acted x ws a answer (x.put tx .absent)
  | refuse {on : Bool} :
      Acted x ws (.refuse on) .done { x with store := { x.store with refusesCommits := on } }
  | idle {a : Act} {answer : Answer} (unstaged : ∀ tx, stagedBy? tx (a, answer) = none)
      (unlanded : landed? (a, answer) = none) : Acted x ws a answer x

/-- Every act does one of these things. -/
theorem acted {ws : Nat → List Write} (houtages : x.store.outages = .none)
    (held : ∀ {tx t}, (x.stage tx).transaction? = some t → t = staging (ws tx)) (a : Act) :
    Acted x ws a (x.act a).1 (x.act a).2 := by
  have idle : ∀ {a answer}, (∀ tx, stagedBy? tx (a, answer) = none) → landed? (a, answer) = none →
      Acted x ws a answer x := fun hunstaged hunlanded => .idle hunstaged hunlanded
  -- what is open under a number holds what was written under it, and nothing else
  have opened : ∀ {tx t}, (x.stage tx).opened? = some t →
      t = staging (ws tx) ∧ x.stage tx = .opened (staging (ws tx)) := by
    intro tx t hopened
    have hstage := Stage.opened?_eq_some.mp hopened
    obtain rfl : t = staging (ws tx) := held (by rw [hstage]; rfl)
    exact ⟨rfl, hstage⟩
  cases a with
  | begin =>
    have hbegin : x.store.begin = .ok (staging []) :=
      begin_eq_ok.mpr ⟨congrArg Outages.begin houtages, rfl⟩
    simp only [act, hbegin]
    exact .begun
  | write tx w =>
    cases hopened : (x.stage tx).opened? with
    | none =>
      simp only [act, hopened]
      exact idle (fun _ => rfl) rfl
    | some t =>
      obtain ⟨rfl, hstage⟩ := opened hopened
      simp only [act, hopened, stage_staging houtages]
      by_cases hnamed : w.isNamed = true
      · simp only [hnamed, if_true]
        exact .wrote hstage hnamed
      · simp only [hnamed]
        exact idle (fun _ => rfl) rfl
  | loadRoutes tx user =>
    cases hopened : (x.stage tx).opened? with
    | none =>
      simp only [act, hopened]
      exact idle (fun _ => rfl) rfl
    | some t =>
      simp only [act, hopened]
      cases x.store.loadRoutes t user with
      | ok routes => exact idle (fun _ => rfl) rfl
      | error e => exact idle (fun _ => rfl) rfl
  | commit tx =>
    cases hopened : (x.stage tx).opened? with
    | none =>
      simp only [act, hopened]
      exact idle (fun _ => rfl) rfl
    | some t =>
      obtain ⟨rfl, hstage⟩ := opened hopened
      simp only [act, hopened]
      -- the flag is checked here; what lands, lands in an act of its own
      cases x.store.allowCommit with
      | ok u => exact .admitted hstage
      | error e => exact .ended hstage (fun _ => rfl) rfl
  | land tx =>
    cases hlanding : (x.stage tx).landing? with
    | none =>
      simp only [act, hlanding]
      exact idle (fun _ => rfl) rfl
    | some t =>
      have hstage := Stage.landing?_eq_some.mp hlanding
      obtain rfl : t = staging (ws tx) := held (by rw [hstage]; rfl)
      simp only [act, hlanding]
      exact .landed hstage
  | rollback tx =>
    cases hopened : (x.stage tx).opened? with
    | none =>
      simp only [act, hopened]
      exact idle (fun _ => rfl) rfl
    | some t =>
      obtain ⟨rfl, hstage⟩ := opened hopened
      simp only [act, hopened]
      exact .ended hstage (fun _ => rfl) rfl
  | refuse on => exact .refuse

/-! ## What a history leads to -/

/-- What a fresh store has become along a history. -/
structure Follows (x : Exchange) (h : List (Act × Answer)) : Prop where
  data : x.store.data = serial h
  outages : x.store.outages = .none
  held : ∀ {tx t}, (x.stage tx).transaction? = some t → t = staging (staged tx h)
  gone : ∀ {tx}, tx ∈ landed h → x.stage tx = .absent
  fresh : ∀ {tx}, x.next ≤ tx → x.stage tx = .absent ∧ staged tx h = [] ∧ tx ∉ landed h
  once : (landed h).Nodup
  named : ∀ {tx w}, w ∈ staged tx h → w.isNamed = true

/-- At the start, nothing has happened. -/
theorem follows_start : start.Follows [] where
  data := rfl
  outages := rfl
  held ht := by cases ht
  gone htx := by cases htx
  fresh _ := ⟨rfl, rfl, List.not_mem_nil⟩
  once := List.nodup_nil
  named hw := by cases hw

/-- An act that stages nothing and lands nothing does not count, whatever it does to the stages but to
begin a transaction. -/
theorem Follows.quiet {answer : Answer} (hx : x.Follows h) (data : x'.store.data = x.store.data)
    (outages : x'.store.outages = x.store.outages) (next : x'.next = x.next)
    (held : ∀ {tx t}, (x'.stage tx).transaction? = some t → (x.stage tx).transaction? = some t)
    (gone : ∀ {tx}, x.stage tx = .absent → x'.stage tx = .absent)
    (unstaged : ∀ tx, stagedBy? tx (a, answer) = none) (unlanded : landed? (a, answer) = none) :
    x'.Follows (h ++ [(a, answer)]) := by
  have hstaged : ∀ tx, staged tx (h ++ [(a, answer)]) = staged tx h := by
    intro tx
    simp [staged, unstaged tx]
  have hlanded : landed (h ++ [(a, answer)]) = landed h := by
    simp [landed, unlanded]
  constructor
  · rw [data, hx.data, serial_congr hlanded fun tx _ => hstaged tx]
  · rw [outages, hx.outages]
  · intro tx t ht
    rw [hstaged]
    exact hx.held (held ht)
  · intro tx htx
    rw [hlanded] at htx
    exact gone (hx.gone htx)
  · intro tx htx
    rw [next] at htx
    rw [hstaged, hlanded]
    exact ⟨gone (hx.fresh htx).1, (hx.fresh htx).2⟩
  · rw [hlanded]
    exact hx.once
  · intro tx w hw
    rw [hstaged] at hw
    exact hx.named hw

/-- A transaction that begins has staged nothing. -/
theorem Follows.begun (hx : x.Follows h) :
    Follows { x.put x.next (.opened (staging [])) with next := x.next + 1 }
      (h ++ [(.begin, .begun x.next)]) := by
  obtain ⟨habsent, hunstaged, hunlanded⟩ := hx.fresh (Nat.le_refl x.next)
  have hstaged : ∀ tx, staged tx (h ++ [(.begin, .begun x.next)]) = staged tx h := by
    intro tx
    simp [staged, stagedBy?]
  have hlanded : landed (h ++ [(.begin, .begun x.next)]) = landed h := by
    simp [landed, landed?]
  constructor
  · rw [serial_congr hlanded fun tx _ => hstaged tx]
    exact hx.data
  · exact hx.outages
  · intro tx t ht
    rw [hstaged]
    by_cases he : tx = x.next
    · subst he
      rw [put_self] at ht
      obtain rfl := Option.some.inj ht
      rw [hunstaged]
    · rw [put_of_ne _ he] at ht
      exact hx.held ht
  · intro tx htx
    rw [hlanded] at htx
    have hne : tx ≠ x.next := fun he => hunlanded (he ▸ htx)
    exact (put_of_ne _ hne).trans (hx.gone htx)
  · intro tx htx
    have hlt : x.next + 1 ≤ tx := htx
    obtain ⟨hgone, hrest⟩ := hx.fresh (show x.next ≤ tx by omega)
    have hne : tx ≠ x.next := by omega
    rw [hstaged, hlanded]
    exact ⟨(put_of_ne _ hne).trans hgone, hrest⟩
  · rw [hlanded]
    exact hx.once
  · intro tx w hw
    rw [hstaged] at hw
    exact hx.named hw

/-- A write is staged by its own transaction alone. -/
theorem Follows.wrote {w : Write} (hx : x.Follows h) (hopened : x.stage tx = .opened (staging (staged tx h)))
    (hnamed : w.isNamed = true) :
    (x.put tx (.opened (staging (staged tx h ++ [w])))).Follows (h ++ [(.write tx w, .done)]) := by
  have hself : staged tx (h ++ [(.write tx w, .done)]) = staged tx h ++ [w] := by
    simp [staged, stagedBy?]
  have hother : ∀ {other}, other ≠ tx →
      staged other (h ++ [(.write tx w, .done)]) = staged other h := by
    intro other hne
    simp [staged, stagedBy?, Ne.symm hne]
  have hlanded : landed (h ++ [(.write tx w, .done)]) = landed h := by
    simp [landed, landed?]
  -- only the list of this one number grows
  constructor
  · rw [serial_congr hlanded fun other hmem => hother (ne_of_absent hopened nofun (hx.gone hmem))]
    exact hx.data
  · exact hx.outages
  · intro other t ht
    by_cases he : other = tx
    · subst he
      rw [put_self] at ht
      rw [hself]
      exact (Option.some.inj ht).symm
    · rw [put_of_ne _ he] at ht
      rw [hother he]
      exact hx.held ht
  · intro other hmem
    rw [hlanded] at hmem
    exact absent_put hopened nofun (hx.gone hmem)
  · intro other hle
    obtain ⟨hgone, hunstaged, hunlanded⟩ := hx.fresh hle
    rw [hother (ne_of_absent hopened nofun hgone), hlanded]
    exact ⟨absent_put hopened nofun hgone, hunstaged, hunlanded⟩
  · rw [hlanded]
    exact hx.once
  · intro other v hv
    by_cases he : other = tx
    · subst he
      rw [hself] at hv
      rcases List.mem_append.mp hv with hv | hv
      · exact hx.named hv
      · rw [List.mem_singleton.mp hv]
        exact hnamed
    · rw [hother he] at hv
      exact hx.named hv

/-- A transaction that lands comes after those that have landed. -/
theorem Follows.landing (hx : x.Follows h) (hlanding : x.stage tx = .landing (staging (staged tx h))) :
    Follows { x.put tx .absent with store := x.store.land (staging (staged tx h)) }
      (h ++ [(.land tx, .done)]) := by
  have hstaged : ∀ other, staged other (h ++ [(.land tx, .done)]) = staged other h := by
    intro other
    simp [staged, stagedBy?]
  have hlanded : landed (h ++ [(.land tx, .done)]) = landed h ++ [tx] := by
    simp [landed, landed?]
  have hnew : tx ∉ landed h := fun hmem => ne_of_absent hlanding nofun (hx.gone hmem) rfl
  -- the number leaves the stage and joins those that have landed; all other numbers stay as they were
  constructor
  · show x.store.data.apply _ = _
    unfold serial
    simp only [hlanded, hstaged, List.foldl_append, List.foldl_cons, List.foldl_nil]
    rw [apply_staging, hx.data]
    rfl
  · exact hx.outages
  · intro other t ht
    rw [hstaged]
    by_cases he : other = tx
    · subst he
      replace ht : ((x.put other .absent).stage other).transaction? = some t := ht
      rw [put_self] at ht
      cases ht
    · replace ht : ((x.put tx .absent).stage other).transaction? = some t := ht
      rw [put_of_ne _ he] at ht
      exact hx.held ht
  · intro other hmem
    rw [hlanded] at hmem
    rcases List.mem_append.mp hmem with hmem | hmem
    · exact absent_put hlanding nofun (hx.gone hmem)
    · obtain rfl := List.mem_singleton.mp hmem
      exact put_self .absent
  · intro other hle
    obtain ⟨hgone, hunstaged, hunlanded⟩ := hx.fresh hle
    have hne : other ≠ tx := ne_of_absent hlanding nofun hgone
    rw [hstaged, hlanded]
    exact ⟨absent_put hlanding nofun hgone, hunstaged, by simp [hunlanded, hne]⟩
  · rw [hlanded, List.nodup_append]
    refine ⟨hx.once, List.nodup_singleton tx, ?_⟩
    intro b hb c hc hbc
    rw [List.mem_singleton.mp hc] at hbc
    exact hnew (hbc ▸ hb)
  · intro other w hw
    rw [hstaged] at hw
    exact hx.named hw

/-- One act more is one deed more in the history. -/
theorem Follows.act (hx : x.Follows h) (a : Act) : (x.act a).2.Follows (h ++ [(a, (x.act a).1)]) := by
  have hacted := acted hx.outages hx.held a
  generalize (x.act a).1 = answer at hacted ⊢
  generalize (x.act a).2 = x' at hacted ⊢
  cases hacted with
  | begun => exact hx.begun
  | wrote hopened hnamed => exact hx.wrote hopened hnamed
  | landed hlanding => exact hx.landing hlanding
  | admitted hopened =>
    exact hx.quiet rfl rfl rfl (held_put hopened (.inr rfl)) (absent_put hopened nofun) (fun _ => rfl) rfl
  | ended hopened hunstaged hunlanded =>
    exact hx.quiet rfl rfl rfl (held_put hopened (.inl rfl)) (absent_put hopened nofun) hunstaged hunlanded
  | refuse => exact hx.quiet rfl rfl rfl id id (fun _ => rfl) rfl
  | idle hunstaged hunlanded => exact hx.quiet rfl rfl rfl id id hunstaged hunlanded

/-- Every sequence of acts leads to what its history says. -/
theorem Follows.after (hx : x.Follows h) (acts : List Act) :
    (x.after acts).Follows (h ++ x.history acts) := by
  induction acts generalizing x h with
  | nil =>
    rw [history, List.append_nil]
    exact hx
  | cons a acts ih =>
    have hnext := ih (hx.act a)
    rwa [List.append_assoc] at hnext

/-- A transaction that is over stages nothing more. -/
theorem Follows.staged_of_absent (hx : x.Follows h) (hgone : x.stage tx = .absent) (hold : tx < x.next)
    (acts : List Act) : staged tx (x.history acts) = [] := by
  induction acts generalizing x h with
  | nil => rfl
  | cons a acts ih =>
    have hacted := acted hx.outages hx.held a
    -- nothing is staged by the act, and the transaction stays over
    have hstep : stagedBy? tx (a, (x.act a).1) = none ∧ (x.act a).2.stage tx = .absent ∧
        tx < (x.act a).2.next := by
      generalize (x.act a).1 = answer at hacted ⊢
      generalize (x.act a).2 = x' at hacted ⊢
      cases hacted with
      | begun =>
        exact ⟨rfl, (put_of_ne _ (Nat.ne_of_lt hold)).trans hgone, Nat.lt_succ_of_lt hold⟩
      | wrote hopened hnamed =>
        exact ⟨if_neg (ne_of_absent hopened nofun hgone).symm, absent_put hopened nofun hgone, hold⟩
      | landed hlanding => exact ⟨rfl, absent_put hlanding nofun hgone, hold⟩
      | admitted hopened => exact ⟨rfl, absent_put hopened nofun hgone, hold⟩
      | ended hopened hunstaged hunlanded => exact ⟨hunstaged tx, absent_put hopened nofun hgone, hold⟩
      | refuse => exact ⟨rfl, hgone, hold⟩
      | idle hunstaged hunlanded => exact ⟨hunstaged tx, hgone, hold⟩
    obtain ⟨hnone, hgone', hold'⟩ := hstep
    have hrest := ih (hx.act a) hgone' hold'
    show ((a, (x.act a).1) :: (x.act a).2.history acts).filterMap (stagedBy? tx) = []
    rw [List.filterMap_cons, hnone]
    exact hrest

/-- What has landed before stays as it is, and what lands later comes after it. -/
theorem Follows.data_after (hx : x.Follows h) (acts : List Act) :
    (x.after acts).store.data = (landed (x.history acts)).foldl
      (fun d tx => (staged tx (h ++ x.history acts)).foldl Write.apply d) x.store.data := by
  rw [(hx.after acts).data, hx.data]
  unfold serial
  rw [landed_append, List.foldl_append]
  congr 1
  apply List.foldl_ext
  intro d tx htx
  have hold : tx < x.next := by
    by_contra hle
    exact (hx.fresh (Nat.not_lt.mp hle)).2.2 htx
  rw [staged_append, hx.staged_of_absent (hx.gone htx) hold, List.append_nil]

/-! ## Atomic and serial -/

/-- The load of an open transaction is answered with what it sees. -/
theorem Follows.loads {user : UserId} (hx : x.Follows h) {t : Transaction}
    (hopened : x.stage tx = .opened t) :
    (x.act (.loadRoutes tx user)).1 = .routes (x.store.data.seen (staged tx h) user) := by
  obtain rfl : t = staging (staged tx h) := hx.held (by rw [hopened]; rfl)
  have hload : x.store.loadRoutes (staging (staged tx h)) user
      = .ok (x.store.data.seen (staged tx h) user) :=
    loadRoutes_staging (congrArg Outages.loadRoutes hx.outages)
  simp only [Exchange.act, Stage.opened?_eq_some.mpr hopened, hload]

/-- What the transactions on a store have done to it, and what they see. -/
structure Serial (x : Exchange) (h : List (Act × Answer)) : Prop where
  /-- What is committed is what the transactions that have landed leave one after the other. -/
  data : x.store.data = serial h
  /-- A transaction lands once. -/
  once : (landed h).Nodup
  /-- An open transaction stages every write but a route without a name. -/
  stages : ∀ {tx t w}, x.stage tx = .opened t → ((x.act (.write tx w)).1 = .done ↔ w.isNamed = true)
  /-- Its commit is admitted just if commits are not refused, and then it lands. -/
  admits : ∀ {tx t}, x.stage tx = .opened t →
    ((x.act (.commit tx)).1 = .admitted ↔ x.store.refusesCommits = false)
  lands : ∀ {tx t}, x.stage tx = .landing t → (x.act (.land tx)).1 = .done
  /-- With nothing in between, the two sections are the commit of the store; -/
  commits : ∀ {tx t s}, x.stage tx = .opened t → x.store.commit t = .ok s →
    (x.after [.commit tx, .land tx]).store = s
  /-- a commit that the store refuses ends the transaction and leaves nothing. -/
  refuses : ∀ {tx t e}, x.stage tx = .opened t → x.store.commit t = .error e →
    x.act (.commit tx) = (.failed e, x.put tx .absent)
  /-- It loads the committed routes of a user with those that it has staged for it. -/
  loads : ∀ {tx t user}, x.stage tx = .opened t →
    (x.act (.loadRoutes tx user)).1 = .routes (x.store.data.seen (staged tx h) user)
  /-- If it writes nothing more and is the next to land, then whoever begins after that and has staged
  nothing loads the same. -/
  foreseen : ∀ {tx t user acts fresh}, x.stage tx = .opened t → landed (x.history acts) = [tx] →
    staged tx (x.history acts) = [] → (x.after acts).stage fresh = .opened ⟨[], []⟩ →
    ((x.after acts).act (.loadRoutes fresh user)).1 = (x.act (.loadRoutes tx user)).1
  /-- Every user has each name once, in its first place and with the route that was saved last. -/
  kept : ∀ user, Kept (saved user h) (x.store.data.routesOf user)
  /-- No name is blank. -/
  named : ∀ {user r}, r ∈ x.store.data.routesOf user → Text.trim r.name ≠ ""

/-- A transaction sees what is committed once it has landed. -/
theorem Follows.foreseen {user : UserId} {fresh : Nat} {t : Transaction} (hx : x.Follows h)
    (hopened : x.stage tx = .opened t) (hlanded : landed (x.history acts) = [tx])
    (hstaged : staged tx (x.history acts) = [])
    (hfresh : (x.after acts).stage fresh = .opened ⟨[], []⟩) :
    ((x.after acts).act (.loadRoutes fresh user)).1 = (x.act (.loadRoutes tx user)).1 := by
  have hafter := hx.after acts
  have hdata := hx.data_after acts
  rw [hlanded, List.foldl_cons, List.foldl_nil, staged_append, hstaged, List.append_nil] at hdata
  have hload : (x.after acts).store.loadRoutes (staging []) user
      = .ok (x.store.data.seen (staged tx h) user) := by
    rw [loadRoutes_staging (congrArg Outages.loadRoutes hafter.outages), hdata]
    exact congrArg Except.ok routesOf_foldl_apply
  rw [hx.loads hopened]
  simp only [Exchange.act, Stage.opened?_eq_some.mpr hfresh]
  rw [show (⟨[], []⟩ : Transaction) = staging [] from rfl, hload]

/-- A commit that the store takes is admitted, and what lands is what the store has committed. -/
theorem store_after_commit {t : Transaction} {s : Store} (hopened : x.stage tx = .opened t)
    (hcommit : x.store.commit t = .ok s) : (x.after [.commit tx, .land tx]).store = s := by
  rw [commit_eq] at hcommit
  cases hallow : x.store.allowCommit with
  | error e =>
    rw [hallow] at hcommit
    cases hcommit
  | ok u =>
    rw [hallow] at hcommit
    have hadmitted : (x.act (.commit tx)).2 = x.put tx (.landing t) := by
      simp only [act, Stage.opened?_eq_some.mpr hopened, hallow]
    have hlanding : ((x.put tx (.landing t)).stage tx).landing? = some t := by rw [put_self]; rfl
    show ((x.act (.commit tx)).2.act (.land tx)).2.store = s
    rw [hadmitted]
    simp only [act, hlanding]
    exact Except.ok.inj hcommit

/-- A commit that the store does not take is over. -/
theorem act_commit_of_error {t : Transaction} {e : StoreError} (hopened : x.stage tx = .opened t)
    (hcommit : x.store.commit t = .error e) :
    x.act (.commit tx) = (.failed e, x.put tx .absent) := by
  rw [commit_eq] at hcommit
  cases hallow : x.store.allowCommit with
  | error e' =>
    rw [hallow] at hcommit
    obtain rfl := Except.error.inj hcommit
    simp only [act, Stage.opened?_eq_some.mpr hopened, hallow]
  | ok u =>
    rw [hallow] at hcommit
    cases hcommit

/-- Routes that are saved have names. -/
theorem Follows.trim_ne_empty {user : UserId} {r : Route} (hx : x.Follows h)
    (hr : r ∈ saved user h) : Text.trim r.name ≠ "" := by
  obtain ⟨tx, -, hmem⟩ := List.mem_flatMap.mp hr
  obtain ⟨w, hw, hroute⟩ := List.mem_filterMap.mp hmem
  have hnamed := hx.named hw
  cases w with
  | note record => cases hroute
  | save owner route =>
    by_cases howner : owner = user
    · rw [Write.routeOf?, if_pos howner] at hroute
      obtain rfl := Option.some.inj hroute
      intro hempty
      rw [Write.isNamed, Text.trim_eq_empty_iff.mp hempty] at hnamed
      cases hnamed
    · rw [Write.routeOf?, if_neg howner] at hroute
      cases hroute

/-- Whatever transactions do side by side on a fresh store, and whenever commits are refused: those that
have landed leave what they would leave one after the other, and nothing else leaves anything. -/
theorem transactions_serial (acts : List Act) : (start.after acts).Serial (start.history acts) := by
  have hx : (start.after acts).Follows (start.history acts) := follows_start.after acts
  have hkept : ∀ user, Kept (saved user (start.history acts))
      ((start.after acts).store.data.routesOf user) := by
    intro user
    rw [hx.data, routesOf_serial]
    exact kept_foldl kept_nil _
  -- each field is a fact about the history that the store follows
  constructor
  case data => exact hx.data
  case once => exact hx.once
  case stages =>
    intro tx t w hopened
    obtain rfl := hx.held (show ((start.after acts).stage tx).transaction? = some t by rw [hopened]; rfl)
    simp only [act, Stage.opened?_eq_some.mpr hopened, stage_staging hx.outages]
    by_cases hnamed : w.isNamed = true
    · simp [hnamed]
    · simp [hnamed]
  case admits =>
    intro tx t hopened
    simp only [act, Stage.opened?_eq_some.mpr hopened, allowCommit]
    cases (start.after acts).store.refusesCommits with
    | true => simp
    | false => simp
  case lands =>
    intro tx t hlanding
    simp only [act, Stage.landing?_eq_some.mpr hlanding]
  case commits => exact fun hopened hcommit => store_after_commit hopened hcommit
  case refuses => exact fun hopened hcommit => act_commit_of_error hopened hcommit
  case loads => exact fun hopened => hx.loads hopened
  case foreseen => exact fun hopened hlanded hstaged hfresh => hx.foreseen hopened hlanded hstaged hfresh
  case kept => exact hkept
  case named =>
    intro user r hr
    have hlast := List.mem_of_getLast? ((hkept user).last r hr)
    exact hx.trim_ne_empty (List.mem_of_mem_filter hlast)

end Exchange

end Store

end FlightRelay
