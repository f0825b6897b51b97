import Mathlib.Data.List.DropRight
import NullMiddleware.Proofs.Middleware.Refusals

/-!
The qualified names of nodes.

A scope with a slash at its end, put there if it had none, is the stem of the names in it. Behind
the last slash of a qualified name is the name of the node, if that has none itself; so the
qualified name gives the stem and the name back, and the scope up to the slash at its end.
-/

namespace NullMiddleware

def EndsInSlash (s : String) : Prop := ∃ rest, s = rest ++ "/"

lemma endsInSlash_iff (s : String) : s.toList.getLast? = some '/' ↔ EndsInSlash s := by
  rw [List.getLast?_eq_some_iff]
  constructor
  · rintro ⟨rest, hrest⟩
    refine ⟨String.ofList rest, ?_⟩
    rw [← String.toList_inj, String.toList_append, String.toList_ofList, hrest]
    rfl
  · rintro ⟨rest, rfl⟩
    exact ⟨rest.toList, String.toList_append⟩

/-- The same scope, but for the slash at its end. -/
def Slashed (scope slashed : String) : Prop := ¬ EndsInSlash scope ∧ slashed = scope ++ "/"

lemma Slashed.endsInSlash {s t : String} (h : Slashed s t) : EndsInSlash t := ⟨s, h.2⟩

lemma append_left_inj (s t rest : String) : s ++ rest = t ++ rest ↔ s = t := by
  rw [← String.toList_inj, String.toList_append, String.toList_append, List.append_left_inj,
    String.toList_inj]

namespace Node

variable {s t name other : String}

/-! ### Stems -/

/-- What the names in a scope begin with. -/
def stem (scope : String) : String :=
  if scope.toList.getLast? == some '/' then scope else scope ++ "/"

lemma qualify_eq (scope name : String) : qualify scope name = stem scope ++ name := by
  unfold qualify stem
  split <;> rfl

lemma stem_of_endsInSlash (h : EndsInSlash s) : stem s = s := by
  rw [stem, if_pos (beq_iff_eq.mpr ((endsInSlash_iff s).mpr h))]

lemma stem_of_not_endsInSlash (h : ¬ EndsInSlash s) : stem s = s ++ "/" := by
  rw [stem, if_neg fun hlast => h ((endsInSlash_iff s).mp (beq_iff_eq.mp hlast))]

lemma endsInSlash_stem (s : String) : EndsInSlash (stem s) := by
  by_cases h : EndsInSlash s
  · rwa [stem_of_endsInSlash h]
  · exact ⟨s, stem_of_not_endsInSlash h⟩

/-- Scopes have one stem if they differ in the slash at their end at most. -/
lemma stem_inj : stem s = stem t ↔ s = t ∨ Slashed s t ∨ Slashed t s := by
  constructor
  · intro h
    by_cases hs : EndsInSlash s <;> by_cases ht : EndsInSlash t
    · rw [stem_of_endsInSlash hs, stem_of_endsInSlash ht] at h
      exact .inl h
    · rw [stem_of_endsInSlash hs, stem_of_not_endsInSlash ht] at h
      exact .inr (.inr ⟨ht, h⟩)
    · rw [stem_of_not_endsInSlash hs, stem_of_endsInSlash ht] at h
      exact .inr (.inl ⟨hs, h.symm⟩)
    · rw [stem_of_not_endsInSlash hs, stem_of_not_endsInSlash ht, append_left_inj] at h
      exact .inl h
  · have hslashed : ∀ {s t}, Slashed s t → stem s = stem t := by
      intro s t h
      rw [stem_of_not_endsInSlash h.1, stem_of_endsInSlash h.endsInSlash, h.2]
    rintro (rfl | h | h)
    · rfl
    · exact hslashed h
    · exact (hslashed h).symm

/-! ### Names behind the last slash -/

lemma rtakeWhile_append (h : EndsInSlash s) (plain : '/' ∉ name.toList) :
    (s ++ name).toList.rtakeWhile (· ≠ '/') = name.toList := by
  obtain ⟨rest, rfl⟩ := h
  have hname : ∀ c ∈ name.toList.reverse, decide (c ≠ '/') = true := by
    intro c hc
    refine decide_eq_true ?_
    rintro rfl
    exact plain (List.mem_reverse.mp hc)
  have hslash : "/".toList.reverse = ['/'] := rfl
  rw [List.rtakeWhile, String.toList_append, String.toList_append, List.reverse_append,
    List.reverse_append, List.takeWhile_append_of_pos hname, hslash]
  simp

lemma append_plain_inj (hs : EndsInSlash s) (ht : EndsInSlash t) (plain : '/' ∉ name.toList)
    (plain' : '/' ∉ other.toList) : s ++ name = t ++ other ↔ s = t ∧ name = other := by
  constructor
  · intro h
    have hname : name = other := by
      rw [← String.toList_inj, ← rtakeWhile_append hs plain, h, rtakeWhile_append ht plain']
    rw [hname, append_left_inj] at h
    exact ⟨h, hname⟩
  · rintro ⟨rfl, rfl⟩
    rfl

lemma qualify_inj (plain : '/' ∉ name.toList) (plain' : '/' ∉ other.toList) :
    qualify s name = qualify t other ↔
      name = other ∧ (s = t ∨ Slashed s t ∨ Slashed t s) := by
  rw [qualify_eq, qualify_eq,
    append_plain_inj (endsInSlash_stem s) (endsInSlash_stem t) plain plain', stem_inj, and_comm]

/-! ### The form of a qualified name -/

lemma qualify_eq_append_iff : qualify s name = s ++ name ↔ EndsInSlash s := by
  rw [qualify_eq, append_left_inj]
  constructor
  · intro h
    exact h ▸ endsInSlash_stem s
  · exact stem_of_endsInSlash

lemma qualify_eq_append_slash_iff : qualify s name = s ++ "/" ++ name ↔ ¬ EndsInSlash s := by
  rw [qualify_eq, append_left_inj]
  constructor
  · intro h hends
    rw [stem_of_endsInSlash hends, ← String.toList_inj, String.toList_append] at h
    simp at h
  · exact stem_of_not_endsInSlash

lemma qualify_absolute (h : ∃ rest, s = "/" ++ rest) :
    ∃ rest, qualify s name = "/" ++ rest := by
  obtain ⟨rest, rfl⟩ := h
  by_cases hends : EndsInSlash ("/" ++ rest)
  · refine ⟨rest ++ name, ?_⟩
    rw [qualify_eq_append_iff.mpr hends, String.append_assoc]
  · refine ⟨rest ++ "/" ++ name, ?_⟩
    rw [qualify_eq_append_slash_iff.mpr hends, String.append_assoc, String.append_assoc,
      String.append_assoc]

/-! ### Nodes that are created -/

/-- Some context gives this node to who asks for its name and its scope. -/
def Created (node : Node) : Prop :=
  ∃ (m : Middleware) (c n : Nat), (m.createNode c n node.name node.scope).result = .ok () ∧
    (m.createNode c n node.name node.scope).state.nodes.get? n = some node

end Node

namespace Middleware

variable {m : Middleware} {c n : Nat} {name scope : String}

lemma contexts_of_attachNode (h : (m.attachNode c).result = .ok ()) :
    ∃ context, (m.attachNode c).state.contexts.get? c = some context := by
  rcases hc : m.context? c with _ | context
  · simp [attachNode, hc] at h
  · rcases hattach : context.attach with ⟨_ | after, lines⟩
    · simp [attachNode, hc, hattach] at h
    · refine ⟨after, ?_⟩
      simp only [attachNode, hc, hattach, setContext, Registry.get?_set, if_true]

lemma nodes_of_enterNode {context : Context} (h : m.contexts.get? c = some context) :
    ∃ node, (m.enterNode c n name scope).state.nodes.get? n = some node ∧
      node.name = name ∧ node.scope = scope := by
  refine ⟨m.newNode c context name scope, ?_, rfl, rfl⟩
  simp only [enterNode, h, Registry.get?_put, if_true]
  rfl

/-- Who is given a node has asked for it properly, and has what was asked for. -/
lemma createNode_ok (h : (m.createNode c n name scope).result = .ok ()) :
    m.admitNode c name scope = .ok () ∧
      ∃ node, (m.createNode c n name scope).state.nodes.get? n = some node ∧
        node.name = name ∧ node.scope = scope := by
  rcases hadmit : m.admitNode c name scope with cause | _
  · simp [createNode, hadmit] at h
  · rcases hattach : (m.attachNode c).result with cause | _
    · simp [createNode, hadmit, hattach] at h
    · obtain ⟨context, hcontext⟩ := contexts_of_attachNode hattach
      simp only [createNode, hadmit, hattach]
      exact ⟨trivial, nodes_of_enterNode hcontext⟩

lemma proper_of_admitNode (h : m.admitNode c name scope = .ok ()) :
    name ≠ "" ∧ ∃ rest, scope = "/" ++ rest := by
  rcases hc : m.context? c with _ | context
  · simp [admitNode, hc] at h
  · exact ((admitNode_eq_ok_iff hc name scope).mp h).2

/-- The nodes that a call leaves were there before it, or the call has created them. -/
lemma Performed.created_of_after {call : Call} {effect : Effect Answer}
    (hp : Performed m call effect) (h : ∀ n node, m.nodes.get? n = some node → node.Created)
    {node : Node} (hn : effect.state.nodes.get? n = some node) : node.Created := by
  cases hp with
  | @created c j k name scope context there shelters unused admitted =>
    have hcreate := createNode_eq (n := j) there shelters admitted
    rw [Registry.get?_put] at hn
    by_cases hj : n = j
    · rw [if_pos hj, Option.some_inj] at hn
      subst hn
      refine ⟨m, c, j, congrArg Effect.result hcreate, ?_⟩
      change (m.createNode c j name scope).state.nodes.get? j = _
      rw [hcreate, Registry.get?_put, if_pos rfl]
    · rw [if_neg hj] at hn
      exact h n node hn
  | @dropped j k _ context there home shelters =>
    rw [Registry.get?_erase] at hn
    by_cases hj : n = j
    · simp [hj] at hn
    · rw [if_neg hj] at hn
      exact h n node hn
  | _ => exact h n node hn

lemma created_of_run (sequences : Registry Numbering) (calls : List Call) {node : Node}
    (hn : (Run.final step (fresh sequences) calls).nodes.get? n = some node) : node.Created := by
  have hkept : ∀ m call effect, Performed m call effect →
      (∀ n node, m.nodes.get? n = some node → node.Created) →
      ∀ n node, effect.state.nodes.get? n = some node → node.Created :=
    fun _ _ _ hperformed hnodes _ _ hn => hperformed.created_of_after hnodes hn
  have hstart : ∀ n node, (fresh sequences).nodes.get? n = some node → node.Created := by
    simp [fresh]
  exact final_of_performed hkept hstart calls n node hn

end Middleware

open Middleware (fresh step)

/-- **Qualified names identify nodes.** The qualified name of every node that is created is
absolute, ends with the name of the node, and has exactly one slash put between scope and name if
and only if the scope does not end with one. For names without slashes, two nodes have the same
qualified name if and only if they have the same name, and their scopes are the same or differ in
nothing but the slash at the end of one of them. -/
theorem qualified_names_identify_nodes :
    (∀ (m : Middleware) c n name scope, (m.createNode c n name scope).result = .ok () →
      ∃ node, (m.createNode c n name scope).state.nodes.get? n = some node ∧
        node.name = name ∧ node.scope = scope ∧ node.Created) ∧
      (∀ sequences calls n node,
        (Run.final step (fresh sequences) calls).nodes.get? n = some node → node.Created) ∧
      (∀ node : Node, node.Created →
        (∃ rest, node.qualifiedName = "/" ++ rest) ∧
          (∃ front, node.qualifiedName = front ++ node.name) ∧
          (node.qualifiedName = node.scope ++ node.name ↔ EndsInSlash node.scope) ∧
          (node.qualifiedName = node.scope ++ "/" ++ node.name ↔ ¬ EndsInSlash node.scope)) ∧
      ∀ a b : Node, a.Created → b.Created → '/' ∉ a.name.toList → '/' ∉ b.name.toList →
        (a.qualifiedName = b.qualifiedName ↔
          a.name = b.name ∧
            (a.scope = b.scope ∨ Slashed a.scope b.scope ∨ Slashed b.scope a.scope)) := by
  refine ⟨?_, ?_, ?_, ?_⟩
  · intro m c n name scope h
    obtain ⟨-, node, hn, rfl, rfl⟩ := Middleware.createNode_ok h
    exact ⟨node, hn, rfl, rfl, m, c, n, h, hn⟩
  · intro sequences calls n node hn
    exact Middleware.created_of_run sequences calls hn
  · rintro node ⟨m, c, n, h, -⟩
    have habsolute := (Middleware.proper_of_admitNode (Middleware.createNode_ok h).1).2
    exact ⟨Node.qualify_absolute habsolute, ⟨_, Node.qualify_eq _ _⟩, Node.qualify_eq_append_iff,
      Node.qualify_eq_append_slash_iff⟩
  · intro a b _ _ plain plain'
    exact Node.qualify_inj plain plain'

/-- A context has nodes of one name in three scopes. The first two have the same qualified name,
since their scopes differ in one slash at the end; the third one has another. -/
theorem qualified_names_around_a_slash :
    let calls : List Middleware.Call :=
      [.init 1 { enclave := some "/" } 7, .createNode 1 10 "talker" "/a",
        .createNode 1 11 "talker" "/a/", .createNode 1 12 "talker" "/a//"]
    let m := Run.final step (fresh {}) calls
    ∃ a b c, m.nodes.get? 10 = some a ∧ m.nodes.get? 11 = some b ∧ m.nodes.get? 12 = some c ∧
      a.qualifiedName = b.qualifiedName ∧ b.qualifiedName ≠ c.qualifiedName ∧
      a.qualifiedName = a.scope ++ "/" ++ a.name ∧ b.qualifiedName = b.scope ++ b.name := by
  intro calls m
  obtain ⟨-, hcreated, hform, hsame⟩ := qualified_names_identify_nodes
  have hopen : ¬ EndsInSlash "/a" := fun h => absurd ((endsInSlash_iff _).mpr h) (by decide)
  have hclosed : EndsInSlash "/a/" := ⟨"/a", by decide⟩
  have hplain : '/' ∉ "talker".toList := by decide
  have ha := hcreated {} calls 10 _ rfl
  have hb := hcreated {} calls 11 _ rfl
  have hc := hcreated {} calls 12 _ rfl
  refine ⟨_, _, _, rfl, rfl, rfl, ?_, ?_, ?_, ?_⟩
  · exact (hsame _ _ ha hb hplain hplain).mpr ⟨rfl, .inr (.inl ⟨hopen, by decide⟩)⟩
  · intro heq
    rcases ((hsame _ _ hb hc hplain hplain).mp heq).2 with h | h | h
    · exact absurd h (by decide)
    · exact h.1 hclosed
    · exact absurd h.2 (by decide)
  · exact (hform _ ha).2.2.2.mpr hopen
  · exact (hform _ hb).2.2.1.mpr hclosed

end NullMiddleware
