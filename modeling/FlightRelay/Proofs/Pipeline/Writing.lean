import FlightRelay.Deflate.Library
import FlightRelay.Pipeline.Outgoing
import FlightRelay.Proofs.Router.Soundness

/-!
# Messages that can be written

A message is written in the version of the protocol that its recipient named at login, and it is lost if
the relay does not speak that version.  No login is refused for its version, so a client that names an
unknown one is logged in and is told nothing, not even that.
-/

namespace FlightRelay

open Outbound Registry Session

variable {r : Registry} {ctx : RelayContext} {s : Relay} {me c : Connection} {m : ClientMessage}
  {u : Outcome} {e : Event} {es fs : List Event} {t : ConnectionId}

/-! ## Writing one message -/

namespace Outbound

variable {lib : Deflater} {o : Outbound}

/-- A message to a live connection whose version the relay speaks is written as that connection expects
it. -/
theorem serialize_of_le (hc : r.find? o.target = some c)
    (h : c.session.protocolVersion ≤ Codec.highestVersion) :
    o.serialize lib r = some
      ⟨o.target, c.session.compression.pack lib o.message.toJson.write.toUTF8, o.immediate⟩ := by
  have hencode : Codec.encode o.message c.session.protocolVersion
      = .ok o.message.toJson.write.toUTF8 := by
    rw [Codec.encode, Codec.encodeText, if_neg (UInt32.not_lt.mpr h)]
    rfl
  unfold serialize
  rw [hc, Option.bind_eq_bind, Option.bind_some, hencode]
  rfl

/-- A message to a connection whose version the relay does not speak is lost. -/
theorem serialize_of_lt (hc : r.find? o.target = some c)
    (h : Codec.highestVersion < c.session.protocolVersion) : o.serialize lib r = none := by
  have hencode : Codec.encode o.message c.session.protocolVersion
      = .error (.unsupportedVersion c.session.protocolVersion) := by
    rw [Codec.encode, Codec.encodeText, if_pos h]
    rfl
  unfold serialize
  rw [hc, Option.bind_eq_bind, Option.bind_some, hencode]
  rfl

end Outbound

/-! ## The version of a connection -/

/-- The event is a login of a connection that names a version. -/
def Event.Names (t : ConnectionId) (version : UInt32) (e : Event) : Prop :=
  ∃ ctx form owner, e = .message ctx ⟨.login form, t, owner⟩ ∧ form.protocolVersion = version

/-- A message leaves the version of every connection as it is, but for a login, which sets that of its
sender. -/
theorem Carried.version (h : Carried ctx s me m u) (hc : u.registry.find? t = some c) :
    s.registry.aspect protocolVersion t = some c.session.protocolVersion ∨
      ∃ form, m = .login form ∧ t = me.id ∧ form.protocolVersion = c.session.protocolVersion := by
  have keep : u.registry.aspect protocolVersion t = s.registry.aspect protocolVersion t →
      s.registry.aspect protocolVersion t = some c.session.protocolVersion ∨
        ∃ form, m = .login form ∧ t = me.id ∧ form.protocolVersion = c.session.protocolVersion :=
    fun hsame => .inl (hsame.symm.trans (aspect_of_find? hc))
  cases h with
  | @login form =>
    by_cases he : t = me.id
    · obtain ⟨d, -, rfl⟩ := find?_modify_eq_some hc
      rw [if_pos he]
      exact .inr ⟨form, rfl, he, rfl⟩
    · exact keep (aspect_modify_of_ne he)
  | position => exact keep (aspect_modify fun _ => rfl)
  | flightInfo hrole hsession =>
    subst hsession
    exact keep (aspect_modify fun _ => rfl)
  | dispatcherStatus => exact keep (aspect_modify fun _ => rfl)
  | requested => exact keep (aspect_modify fun _ => rfl)
  | serviceBound => exact keep (aspect_modify fun _ => rfl)
  | pilotLeft => exact keep (aspect_modify fun _ => rfl)
  | pilotWithdrew => exact keep (aspect_modify fun _ => rfl)
  | dispatcherLeft => exact keep (aspect_modify fun _ => rfl)
  | completed => exact keep (aspect_modify fun _ => rfl)
  | @viewerBound viewer v =>
    have hclaimed : (s.registry.modify viewer (following me.id)).aspect protocolVersion t
        = s.registry.aspect protocolVersion t := aspect_modify fun _ => rfl
    exact keep ((aspect_modify (f := followedBy viewer) fun _ => rfl).trans hclaimed)
  | viewerKept => exact keep (aspect_modify fun _ => rfl)
  | viewerDropped hrole hcleared => exact keep (aspect_clearViewer hcleared (fun _ _ => rfl) fun _ _ => rfl)
  | viewerLeft hrole hcleared => exact keep (aspect_clearViewer hcleared (fun _ _ => rfl) fun _ _ => rfl)
  | viewingEnded hrole hcleared => exact keep (aspect_clearViewer hcleared (fun _ _ => rfl) fun _ _ => rfl)
  | _ => exact keep rfl

/-- After an event, the version of a live connection is the one that it had, the first one of a fresh
connection, or the one that the event names. -/
theorem Happened.version (h : Happened s e u) (hc : u.registry.find? t = some c) :
    s.registry.aspect protocolVersion t = some c.session.protocolVersion ∨
      c.session.protocolVersion = 0 ∨ e.Names t c.session.protocolVersion := by
  cases h with
  | accepted hadded =>
    obtain ⟨-, -, -, hfound⟩ := accept_eq_ok hadded
    rw [hfound] at hc
    split at hc
    · obtain rfl := Option.some.inj hc
      exact .inr (.inl rfl)
    · exact .inl (aspect_of_find? hc)
  | @carried ctx envelope me o hlive how =>
    obtain ⟨message, sender, owner⟩ := envelope
    rcases how.version hc with hsame | ⟨form, rfl, he, hversion⟩
    · exact .inl hsame
    · obtain rfl : t = sender := he.trans (id_of_find? hlive)
      exact .inr (.inr ⟨ctx, form, owner, rfl, hversion⟩)
  | departed hremoved =>
    obtain ⟨-, -, -, -, hfound⟩ := remove_eq_some hremoved
    rw [hfound] at hc
    split at hc
    · cases hc
    · obtain ⟨d, hd, rfl⟩ := Option.map_eq_some_iff.mp hc
      exact .inl (aspect_of_find? hd :)
  | _ => exact .inl (aspect_of_find? hc)

namespace Relay

/-- After a run, the version of a live connection is the one that it had before, the first one of a fresh
connection, or one that it named on the way. -/
theorem version_run (hopen : s.outbox.isOpen = true) (hc : (s.run es).registry.find? t = some c) :
    s.registry.aspect protocolVersion t = some c.session.protocolVersion ∨
      c.session.protocolVersion = 0 ∨ ∃ e ∈ es, e.Names t c.session.protocolVersion := by
  induction es generalizing s with
  | nil => exact .inl (aspect_of_find? hc)
  | cons e es ih =>
    rcases ih (isOpen_step hopen) hc with hstep | hfirst | ⟨e', he', hnamed⟩
    · -- the run that follows leaves the version alone, so it comes from the first event or before
      obtain ⟨u, happened, hbecomes⟩ := happened_step (e := e) hopen
      rw [hbecomes.registry] at hstep
      obtain ⟨d, hd, hversion⟩ := aspect_eq_some_iff.mp hstep
      rw [← hversion]
      rcases happened.version hd with hbefore | hfirst | hnamed
      · exact .inl hbefore
      · exact .inr (.inl hfirst)
      · exact .inr (.inr ⟨e, List.mem_cons_self, hnamed⟩)
    · exact .inr (.inl hfirst)
    · exact .inr (.inr ⟨e', List.mem_cons_of_mem _ he', hnamed⟩)

/-! ## Writing all messages of a run -/

/-- In every run, a message that an event hands on is written whenever its recipient is still live, now
or later; or it is lost, and then the recipient has named the version that it is found with at a login,
and the relay does not speak that version. -/
theorem written_unless_foreign (lib : Deflater) (store : Store) (es : List Event) (e : Event) (fs : List Event) :
    ∀ o ∈ ((empty store).run es).emitted e, ∀ c,
      ((empty store).run (es ++ e :: fs)).registry.find? o.target = some c →
      o.serialize lib ((empty store).run (es ++ e :: fs)).registry = some
          ⟨o.target, c.session.compression.pack lib o.message.toJson.write.toUTF8, o.immediate⟩ ∨
        (o.serialize lib ((empty store).run (es ++ e :: fs)).registry = none ∧
          Codec.highestVersion < c.session.protocolVersion ∧
          ∃ d ∈ es ++ e :: fs, d.Names o.target c.session.protocolVersion) := by
  intro o _ c hc
  by_cases hforeign : Codec.highestVersion < c.session.protocolVersion
  · refine .inr ⟨Outbound.serialize_of_lt hc hforeign, hforeign, ?_⟩
    rcases version_run rfl hc with hnone | hfirst | hnamed
    · cases hnone
    · -- a fresh connection is found with a version that the relay speaks
      rw [hfirst] at hforeign
      exact absurd hforeign (by decide)
    · exact hnamed
  · exact .inl (Outbound.serialize_of_le hc (UInt32.not_lt.mp hforeign))

/-- The acknowledgement of a login is written, also when the rest of the boarding comes first. -/
theorem written_unless_foreign_boarding :
    ∃ c, ((empty .empty).run Event.boarding).registry.find? 1 = some c ∧
      (urgent (.accepted "login") 1).serialize Deflate.library ((empty .empty).run Event.boarding).registry = some
        ⟨1, c.session.compression.pack Deflate.library (ServerMessage.accepted "login").toJson.write.toUTF8, true⟩ := by
  obtain ⟨c, hc⟩ := contains_iff.mp
    (show ((empty .empty).run Event.boarding).registry.contains 1 = true by decide)
  have hversion : ((empty .empty).run Event.boarding).registry.aspect protocolVersion 1 = some 1 := by
    decide
  rw [aspect_of_find? hc] at hversion
  refine ⟨c, hc, ?_⟩
  rcases written_unless_foreign Deflate.library .empty (Event.boarding.take 3) (Event.login 1 .pilot)
    (Event.boarding.drop 4) (urgent (.accepted "login") 1) (List.mem_singleton_self _) c hc with
    hwritten | ⟨-, hforeign, -⟩
  · exact hwritten
  · rw [Option.some.inj hversion] at hforeign
    exact absurd hforeign (by decide)

/-- A pilot logs in under a version that the relay does not speak. -/
def foreignLogin : Event :=
  .sent 1 (.login ⟨1, "AB12", "token", .pilot, Codec.highestVersion + 1, .none, none, none⟩)

/-- The login is acknowledged, the pilot is logged in and live, and the acknowledgement is lost. -/
theorem login_unheard :
    ((empty .empty).run [.accept none .standard 0]).emitted foreignLogin
        = [urgent (.accepted "login") 1] ∧
      ((empty .empty).run [.accept none .standard 0, foreignLogin]).registry.aspect
        isAuthenticated 1 = some true ∧
      (urgent (.accepted "login") 1).serialize Deflate.library
        ((empty .empty).run [.accept none .standard 0, foreignLogin]).registry = none := by
  refine ⟨rfl, by decide, ?_⟩
  obtain ⟨c, hc⟩ := contains_iff.mp
    (show ((empty .empty).run [.accept none .standard 0, foreignLogin]).registry.contains 1 = true by
      decide)
  have hversion : ((empty .empty).run [.accept none .standard 0, foreignLogin]).registry.aspect
      protocolVersion 1 = some (Codec.highestVersion + 1) := by
    decide
  rw [aspect_of_find? hc] at hversion
  refine Outbound.serialize_of_lt hc ?_
  rw [Option.some.inj hversion]
  decide

end Relay

end FlightRelay
