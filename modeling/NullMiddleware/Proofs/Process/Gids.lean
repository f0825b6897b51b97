import NullMiddleware.Proofs.Gid
import NullMiddleware.Proofs.Process.Ids
import NullMiddleware.Proofs.Sequence

/-!
The gids of the endpoints that a process makes.

Publishers and subscriptions count apart, so one of each may have the same id; their gids differ all
the same. Two of a kind differ in their ids until the ids of the kind are used up.
-/

namespace NullMiddleware

def Side.role : Side → Role
  | publisher => .publisher
  | subscription => .subscription

lemma Side.kind_inj {k j : Side} : k.role.kind = j.role.kind ↔ k = j := by
  cases k <;> cases j <;> decide

/-- What has a gid. -/
inductive GidHolder
  | publisher (p : Publisher)
  | subscription (s : Subscription)

namespace GidHolder

def side : GidHolder → Side
  | publisher _ => .publisher
  | subscription _ => .subscription

def id : GidHolder → UInt64
  | publisher p => p.id
  | subscription s => s.id

def topic : GidHolder → String
  | publisher p => p.topic
  | subscription s => s.topic

def qos : GidHolder → QosProfile
  | publisher p => p.qos
  | subscription s => s.qos

def gid : GidHolder → Gid
  | publisher p => p.gid
  | subscription s => s.gid

lemma gid_eq (a : GidHolder) : a.gid = .ofEndpoint a.side a.id := by
  cases a <;> rfl

lemma exists_eq (side : Side) (id : UInt64) (topic : String) (qos : QosProfile) :
    ∃ a : GidHolder, a.side = side ∧ a.id = id ∧ a.topic = topic ∧ a.qos = qos := by
  cases side with
  | publisher => exact ⟨.publisher ⟨id, topic, qos, false⟩, rfl, rfl, rfl, rfl⟩
  | subscription => exact ⟨.subscription ⟨id, topic, qos, false, none⟩, rfl, rfl, rfl, rfl⟩

end GidHolder

namespace Process

/-! ### What is made -/

/-- The side, the topic and the profile of what a call asks for, if it has a gid. -/
def Call.endpoint? : Call → Option (Side × String × QosProfile)
  | .own (.createEndpoint _ .publisher topic qos) => some (.publisher, topic, qos)
  | .own (.createEndpoint _ .subscription topic qos) => some (.subscription, topic, qos)
  | _ => none

lemma Call.kind_of_endpoint {call : Call} {side : Side} {topic : String} {qos : QosProfile}
    (h : call.endpoint? = some (side, topic, qos)) : call.kind? = some side.role.kind := by
  unfold endpoint? at h
  split at h <;> cases h <;> rfl

/-- An endpoint comes of a call, with an id from sequences `q`. -/
structure Event.Makes (l : Ledger) (e : Event) (q : Nat) (a : GidHolder) : Prop where
  call : e.call.endpoint? = some (a.side, a.topic, a.qos)
  drawn : l.drawn? e = some (q, a.side.role.kind)
  id : e.id = some a.id

/-- The same, with what is to be known of a call of a run put together. -/
lemma Event.makes_of_map {es : List Event} {i q : Nat} {a : GidHolder}
    (h : (es[i]?).map (fun e =>
        (e.call.endpoint?, (Ledger.along {} (es.take i)).drawn? e, e.id)) =
      some (some (a.side, a.topic, a.qos), some (q, a.side.role.kind), some a.id)) :
    ∃ e, es[i]? = some e ∧ e.Makes (Ledger.along {} (es.take i)) q a := by
  obtain ⟨e, he, hsame⟩ := Option.map_eq_some_iff.mp h
  simp only [Prod.mk.injEq] at hsame
  exact ⟨e, he, hsame.1, hsame.2.1, hsame.2.2⟩

/-! ### Counting -/

namespace Ledger

lemma along_append (l : Ledger) (u v : List Event) :
    l.along (u ++ v) = (l.along u).along v := by
  simp [along]

lemma count_le_along (l : Ledger) (es : List Event) (q : Nat) (kind : EntityKind) :
    l.count q kind ≤ (l.along es).count q kind := by
  induction es generalizing l with
  | nil => exact Nat.le_refl _
  | cons e rest ih =>
    have hnext := l.count_next e q kind
    have hrest := ih (l.next e)
    change _ ≤ ((l.next e).along rest).count q kind
    omega

lemma count_lt_along {l : Ledger} {u v : List Event} {e : Event} {q : Nat} {kind : EntityKind}
    (h : (l.along u).drawn? e = some (q, kind)) :
    (l.along u).count q kind < (l.along (u ++ e :: v)).count q kind := by
  have hnext := (l.along u).count_next e q kind
  have hrest := count_le_along ((l.along u).next e) v q kind
  rw [along_append]
  change _ < (((l.along u).next e).along v).count q kind
  rw [h, if_pos rfl] at hnext
  omega

lemma count_lt_count {l : Ledger} {es : List Event} {i j : Nat} (hij : i < j) {e : Event}
    (he : es[i]? = some e) {q : Nat} {kind : EntityKind}
    (h : (l.along (es.take i)).drawn? e = some (q, kind)) :
    (l.along (es.take i)).count q kind < (l.along (es.take j)).count q kind := by
  have hsplit := Run.eq_take_cons_drop ((List.getElem?_take_of_lt hij).trans he)
  rw [List.take_take, Nat.min_eq_left (Nat.le_of_lt hij)] at hsplit
  rw [hsplit]
  exact count_lt_along h

end Ledger

/-! ### Gids in a run -/

section

variable {sequences : Registry Numbering} {calls : List Call} {es : List Event}
  (hes : es = Run.events step (fresh sequences) calls) {i j q : Nat} {e e' : Event}
  {a b : GidHolder}
include hes

lemma regular_at (he : es[i]? = some e) :
    Tracks (fresh sequences) (Ledger.along {} (es.take i)) e.before ∧
      e.Regular (Ledger.along {} (es.take i)) := by
  subst hes
  exact (run_regular sequences calls).1 _ _ _ (Run.eq_take_cons_drop he)

/-- The id of an endpoint says how many of its kind were made before it. -/
lemma Event.Makes.id_eq (he : es[i]? = some e)
    (ha : e.Makes (Ledger.along {} (es.take i)) q a) :
    a.id = (fresh sequences).nextId q a.side.role.kind +
      UInt64.ofNat ((Ledger.along {} (es.take i)).count q a.side.role.kind) := by
  obtain ⟨htracks, hregular⟩ := regular_at hes he
  have hid := hregular.draws.2 _ _ ha.drawn
  rw [ha.id, Option.some_inj] at hid
  rw [hid]
  exact htracks.ids _ _

/-- Two endpoints that draw from the same sequences differ in their kinds or in their ids. -/
lemma Event.Makes.differ
    (few : ∀ side : Side, (Ledger.along {} es).count q side.role.kind ≤ UInt64.size)
    (hij : i < j) (he : es[i]? = some e) (he' : es[j]? = some e')
    (ha : e.Makes (Ledger.along {} (es.take i)) q a)
    (hb : e'.Makes (Ledger.along {} (es.take j)) q b) : ¬ (a.side = b.side ∧ a.id = b.id) := by
  rintro ⟨hside, hid⟩
  -- the ids say how many came before, which are fewer for the first than for the second
  obtain ⟨hj, -⟩ := List.getElem?_eq_some_iff.mp he'
  have hfew := few b.side
  have hfirst := Ledger.count_lt_count hij he ha.drawn
  have hlast := Ledger.count_lt_count hj he' hb.drawn
  rw [List.take_length] at hlast
  rw [hside] at hfirst
  rw [ha.id_eq hes he, hb.id_eq hes he', hside, Sequence.add_ofNat_inj (by omega) (by omega)] at hid
  omega

lemma Event.exists_makes (he : es[i]? = some e) (accepted : e.accepted) {side : Side}
    {topic : String} {qos : QosProfile} (hcall : e.call.endpoint? = some (side, topic, qos)) :
    ∃ r a, e.Makes (Ledger.along {} (es.take i)) r a ∧ a.side = side := by
  obtain ⟨-, hregular⟩ := regular_at hes he
  have hkind := Call.kind_of_endpoint hcall
  obtain ⟨⟨r, kind⟩, hdrawn⟩ := Option.isSome_iff_exists.mp
    (hregular.counted.mpr ⟨accepted, by rw [hkind]; rfl⟩)
  have hsame := Ledger.kind_of_drawn _ hdrawn
  rw [hkind, Option.some_inj] at hsame
  have hid := hregular.draws.2 _ _ hdrawn
  obtain ⟨a, rfl, ha, rfl, rfl⟩ := GidHolder.exists_eq side (e.before.nextId r kind) topic qos
  exact ⟨r, a, ⟨hcall, by rw [hdrawn, hsame], by rw [hid, ha]; rfl⟩, rfl⟩

end

/-- **Gids tell endpoints apart.** Of the publishers and subscriptions of nodes that draw from the
same sequences, any two have different gids, as long as there are no more of a kind than words.
Nothing else matters: not the contexts of the nodes, nor what is called or refused in between, nor
who is still there when the gids are compared. -/
theorem gids_tell_endpoints_apart (sequences : Registry Numbering) (calls : List Call) (q : Nat)
    (few : ∀ side : Side, (Ledger.along {} (Run.events step (fresh sequences) calls)).count q
      side.role.kind ≤ UInt64.size) :
    let es := Run.events step (fresh sequences) calls
    (∀ i (e : Event) side topic qos, es[i]? = some e → e.accepted →
        e.call.endpoint? = some (side, topic, qos) →
        ∃ r a, e.Makes (Ledger.along {} (es.take i)) r a ∧ a.side = side) ∧
      ∀ i j (e e' : Event) a b, es[i]? = some e → es[j]? = some e' →
        e.Makes (Ledger.along {} (es.take i)) q a → e'.Makes (Ledger.along {} (es.take j)) q b →
        a.gid.compare b.gid = .ok (decide (i = j)) := by
  intro es
  refine ⟨fun i e side topic qos he accepted => Event.exists_makes rfl he accepted, ?_⟩
  intro i j e e' a b he he' ha hb
  rw [a.gid_eq, b.gid_eq, Gid.compare_ofEndpoint]
  refine congrArg Except.ok ?_
  rw [decide_eq_decide]
  constructor
  · intro hsame
    rcases Nat.lt_trichotomy i j with hij | hij | hij
    · exact absurd hsame (ha.differ rfl few hij he he' hb)
    · exact hij
    · exact absurd ⟨hsame.1.symm, hsame.2.symm⟩ (hb.differ rfl few hij he' he ha)
  · rintro rfl
    rw [he, Option.some_inj] at he'
    subst he'
    have hkind := ha.drawn.symm.trans hb.drawn
    have hid := ha.id.symm.trans hb.id
    simp only [Option.some.injEq, Prod.mk.injEq, true_and] at hkind hid
    exact ⟨Side.kind_inj.mp hkind, hid⟩

/-- Two contexts share sequences that start with the largest id. The publisher and the subscription
that have this id have different gids; so have the publishers before and after the ids start again,
although the node of the first one is dropped in between. -/
theorem gids_around_the_last_id :
    let sequences : Registry Numbering :=
      Registry.empty.put 7 (.startingAt fun _ => 18446744073709551615)
    let o : ContextOptions := { enclave := some "/" }
    let calls : List Call :=
      [.own (.init 1 o 7), .own (.init 2 o 7), .own (.createNode 1 10 "a" "/"),
        .own (.createNode 2 20 "b" "/"), .own (.createEndpoint 10 .publisher "/t" {}),
        .own (.createEndpoint 10 .publisher "t" {}), .own (.dropNode 10),
        .own (.createEndpoint 20 .subscription "/t" {}),
        .own (.createEndpoint 20 .publisher "/t" {})]
    let last := Publisher.mk 18446744073709551615 "/t" {} false
    let other := Subscription.mk 18446744073709551615 "/t" {} true none
    let first := Publisher.mk 0 "/t" {} true
    let es := Run.events step (fresh sequences) calls
    (∃ e, es[4]? = some e ∧ e.Makes (Ledger.along {} (es.take 4)) 7 (.publisher last)) ∧
      (∃ e, es[7]? = some e ∧ e.Makes (Ledger.along {} (es.take 7)) 7 (.subscription other)) ∧
      (∃ e, es[8]? = some e ∧ e.Makes (Ledger.along {} (es.take 8)) 7 (.publisher first)) ∧
      last.gid.compare other.gid = .ok false ∧ last.gid.compare first.gid = .ok false ∧
      last.gid.compare last.gid = .ok true := by
  intro sequences o calls last other first es
  obtain ⟨e, he, hmakes⟩ : ∃ e, es[4]? = some e ∧
      e.Makes (Ledger.along {} (es.take 4)) 7 (.publisher last) :=
    Event.makes_of_map (by decide +kernel)
  obtain ⟨e', he', hmakes'⟩ : ∃ e, es[7]? = some e ∧
      e.Makes (Ledger.along {} (es.take 7)) 7 (.subscription other) :=
    Event.makes_of_map (by decide +kernel)
  obtain ⟨e'', he'', hmakes''⟩ : ∃ e, es[8]? = some e ∧
      e.Makes (Ledger.along {} (es.take 8)) 7 (.publisher first) :=
    Event.makes_of_map (by decide +kernel)
  have hfew : ∀ side : Side, (Ledger.along {} es).count 7 side.role.kind ≤ UInt64.size := by
    rintro (_ | _)
    · decide +kernel
    · decide +kernel
  have hgids := (gids_tell_endpoints_apart sequences calls 7 hfew).2
  exact ⟨⟨e, he, hmakes⟩, ⟨e', he', hmakes'⟩, ⟨e'', he'', hmakes''⟩,
    hgids 4 7 e e' _ _ he he' hmakes hmakes', hgids 4 8 e e'' _ _ he he'' hmakes hmakes'',
    hgids 4 4 e e _ _ he he hmakes hmakes⟩

end Process
end NullMiddleware
