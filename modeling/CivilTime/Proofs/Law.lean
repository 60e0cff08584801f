/-
  CivilTime.Proofs.Law — laws that zones, states and moments keep to.

  A law says which zones there may be, which states of zones, and which moments. It is closed
  (`Law.Closed`) if the answers of its zones keep to it: the states that they find, the moments that
  these make of readings and of moments of UTC, and the zones that are looked up for states. Then all
  that is made in its zones keeps to it as well, by whatever way it is made.
-/

import CivilTime.Proofs.Timeline

namespace CivilTime

/-! ## What a step ensures -/

namespace Traced

/-- The result has a property, if there is one. -/
def Ensures {α : Type} (t : Traced α) (P : α → Prop) : Prop := ∀ a, t.result = .ok a → P a

variable {α β : Type} {P : α → Prop} {Q : β → Prop}

theorem ensures_pure {a : α} (h : P a) : (pure a : Traced α).Ensures P := by
  intro b hb
  cases hb
  exact h

theorem ensures_true (t : Traced α) : t.Ensures fun _ => True := fun _ _ => trivial

theorem ensures_fault (f : Fault) : (fault f : Traced α).Ensures P := by
  intro a h
  cases h

theorem ensures_fail (f : Failure) : (fail f : Traced α).Ensures P := ensures_fault _

theorem ensures_bind {t : Traced α} {f : α → Traced β} (h : t.Ensures P) (hf : ∀ a, P a → (f a).Ensures Q) :
    (t >>= f).Ensures Q := by
  intro b hb
  obtain ⟨a, ha, hb⟩ := result_bind_eq_ok.mp hb
  exact hf a (h a ha) b hb

/-- Where the first step's result does not matter. -/
theorem ensures_then {t : Traced α} {f : α → Traced β} (hf : ∀ a, (f a).Ensures Q) : (t >>= f).Ensures Q :=
  ensures_bind (ensures_true t) fun a _ => hf a

/-- Two ways to go on that agree on what the first step ensures. -/
theorem Ensures.bind_congr {t : Traced α} {f g : α → Traced β} (h : t.Ensures P) (same : ∀ a, P a → f a = g a) :
    t >>= f = t >>= g := by
  cases hr : t.result with
  | error e => rw [bind_of_error hr, bind_of_error hr]
  | ok a => rw [bind_of_ok hr, bind_of_ok hr, same a (h a hr)]

theorem ensures_lift {ε : Type} {asFault : ε → Fault} {e : Except ε α} (h : ∀ a, e = .ok a → P a) :
    (lift asFault e).Ensures P := fun a ha => h a (lift_result_eq_ok.mp ha)

end Traced

open Traced (ensures_pure ensures_fault ensures_fail ensures_bind ensures_then ensures_lift)

/-! ## Closed laws -/

structure Law where
  zone : Zone → Prop
  state : ZoneState → Prop
  moment : ZonedDateTime → Prop

namespace Law

/-- The law holds of UTC, fixed offsets and the regions that are known, and of what its zones answer. -/
structure Closed (L : Law) (w : World) : Prop where
  utc : L.zone .utc
  fixed : ∀ o, L.zone (.fixed o)
  region : ∀ key r, w.region key = .ok r → L.zone (.region r)
  ofState : ∀ s, L.state s → (Zone.ofState w s).Ensures L.zone
  state : ∀ m, L.moment m → L.state m.state
  stateOfUtcDate : ∀ z d, L.zone z → (z.stateOfUtcDate w d).Ensures L.state
  dateCandidates : ∀ z d, L.zone z → (z.dateCandidates w d).Ensures fun res => ∀ s ∈ res.toList, L.state s
  ofUtc : ∀ z x s, L.zone z → (z.stateOfUtc w x).result = .ok s → L.moment ⟨x, s⟩
  ofLocal : ∀ z x res s, L.zone z → (z.candidates w x).result = .ok res → s ∈ res.toList →
    (Zone.momentIn x s).Ensures L.moment

namespace Closed

variable {L : Law} {w : World} {z : Zone} (closed : L.Closed w)

include closed

theorem onlyState {s : ZoneState} (allowed : L.zone z) (only : z.onlyState? = some s) (x : CivilDateTime) :
    L.moment ⟨x, s⟩ := by
  refine closed.ofUtc z x s allowed ?_
  rw [Zone.stateOfUtc_of_onlyState only, Traced.pure_result]

theorem withFixedOffset (m : ZonedDateTime) : L.moment m.withFixedOffset :=
  closed.ofUtc (.fixed m.state.offset) m.utc _ (closed.fixed _) rfl

theorem date {m : ZonedDateTime} {d : ZonedDate} (allowed : L.moment m) (h : m.date = .ok d) : L.state d.state := by
  obtain ⟨x, -, h⟩ := except_bind_eq_ok.mp h
  cases h
  exact closed.state m allowed

section Zone

variable (allowed : L.zone z)

include allowed

/-! ### Dates -/

theorem dateOfLocal (d : CivilDate) : (z.dateOfLocal w d).Ensures (L.state ·.state) := by
  refine ensures_bind (P := L.state) ?_ fun s hs => ensures_pure hs
  exact ensures_bind (closed.dateCandidates z d allowed) fun res hres => ensures_pure (hres _ res.earliest_mem)

theorem dateOfUtc (d : CivilDate) : (z.dateOfUtc w d).Ensures (L.state ·.state) :=
  ensures_bind (closed.stateOfUtcDate z d allowed) fun _ hs => ensures_pure hs

theorem resolveDate (d : CivilDate) : (z.resolveDate w d).Ensures fun res => ∀ d ∈ res.toList, L.state d.state := by
  refine ensures_bind (closed.dateCandidates z d allowed) fun res hres => ensures_pure fun d' hd => ?_
  obtain ⟨s, hs, rfl⟩ := Resolution.mem_toList_map.mp hd
  exact hres s hs

/-! ### Moments -/

theorem momentOfLocal (x : CivilDateTime) : (z.momentOfLocal w x).Ensures L.moment := by
  intro m hm
  obtain ⟨s, hs, hm⟩ := Traced.result_bind_eq_ok.mp hm
  obtain ⟨res, hres, hs⟩ := Traced.result_bind_eq_ok.mp hs
  cases hs
  exact closed.ofLocal z x res _ allowed hres res.earliest_mem m hm

theorem momentOfUtc (x : CivilDateTime) : (z.momentOfUtc w x).Ensures L.moment := by
  intro m hm
  obtain ⟨s, hs, hm⟩ := Traced.result_bind_eq_ok.mp hm
  cases hm
  exact closed.ofUtc z x s allowed hs

theorem resolve (x : CivilDateTime) : (z.resolve w x).Ensures fun res => ∀ m ∈ res.toList, L.moment m := by
  intro res h
  obtain ⟨states, found, h⟩ := Traced.result_bind_eq_ok.mp h
  have made (s : ZoneState) (hs : s ∈ states.toList) := closed.ofLocal z x states s allowed found hs
  cases states with
  | single s =>
    obtain ⟨m, hm, h⟩ := Traced.result_bind_eq_ok.mp h
    cases h
    intro m' hm'
    rw [List.mem_singleton.mp hm']
    exact made s (by simp [Resolution.toList]) m hm
  | ambiguous s t =>
    obtain ⟨m, hm, h⟩ := Traced.result_bind_eq_ok.mp h
    obtain ⟨n, hn, h⟩ := Traced.result_bind_eq_ok.mp h
    cases h
    intro m' hm'
    simp only [Resolution.toList, List.mem_cons, List.not_mem_nil, or_false] at hm'
    rcases hm' with rfl | rfl
    · exact made s (by simp [Resolution.toList]) m' hm
    · exact made t (by simp [Resolution.toList]) m' hn

theorem momentOfTimestamp (secs nanos : Int) : (z.momentOfTimestamp w secs nanos).Ensures L.moment :=
  ensures_then fun x => closed.momentOfUtc allowed x

theorem momentOfText (text format : String) : (z.momentOfText w text format).Ensures L.moment := by
  refine ensures_then fun parsed => ?_
  dsimp only
  split
  · exact closed.momentOfLocal allowed _
  · split
    · exact ensures_fault _
    · split
      · exact ensures_fault _
      · refine ensures_then fun x => ensures_bind (closed.momentOfUtc allowed x) fun m hm => ?_
        split
        · exact ensures_fault _
        · exact ensures_pure hm

end Zone

theorem now (nanos : Int) : (Zone.now w nanos).Ensures L.moment := by
  refine ensures_then fun _ => ?_
  split
  · exact ensures_fail _
  · exact closed.momentOfTimestamp closed.utc _ _

theorem atTime {d : ZonedDate} (allowed : L.state d.state) (t : ClockTime) : (d.atTime w t).Ensures L.moment :=
  ensures_bind (closed.ofState d.state allowed) fun _ hz => closed.momentOfLocal hz _

end Closed

end Law

end CivilTime
