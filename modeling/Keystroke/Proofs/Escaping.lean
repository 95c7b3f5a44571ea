import Keystroke.Pattern

namespace Keystroke

theorem Level.current_node (l : Level) :
    l.current.node = .seqOf (l.items.reverse.map (·.node)) := by
  unfold current
  split
  next h => simp [h, Node.seqOf]
  next i h => simp [h, Node.seqOf]
  next => rfl

/-- The state after reading nodes at the outermost level, with no flag switched. -/
def Reading.ofNodes (ns : List Node) : Reading where
  flags := {}
  level :=
    { items := (ns.map fun n => ⟨n, true⟩).reverse
      pending := if ns = [] then .nothing else .item }

namespace Reading

@[simp] theorem flags_ofNodes (ns : List Node) : (ofNodes ns).flags = {} := rfl

@[simp] theorem outer_ofNodes (ns : List Node) : (ofNodes ns).outer = [] := rfl

@[simp] theorem groups_ofNodes (ns : List Node) : (ofNodes ns).groups = 0 := rfl

@[simp] theorem pushNode_ofNodes (ns : List Node) (n : Node) :
    (ofNodes ns).pushNode n = ofNodes (ns ++ [n]) := by
  simp [ofNodes, pushNode, push]

@[simp] theorem pushLiteral_ofNodes (ns : List Node) (c : Char) :
    (ofNodes ns).pushLiteral c = ofNodes (ns ++ [.one (.single c)]) :=
  pushNode_ofNodes ns _

theorem canRepeat_ofNodes (ns : List Node) (n : Node) : (ofNodes (ns ++ [n])).canRepeat := by
  simp [ofNodes, canRepeat]

theorem mapLast_ofNodes (ns : List Node) (n : Node) (f : Node → Node) :
    (ofNodes (ns ++ [n])).mapLast f .item = ofNodes (ns ++ [f n]) := by
  simp [ofNodes, mapLast]

theorem finish_ofNodes {ns : List Node} (h : (Node.seqOf ns).greatestAgain = 0) :
    (ofNodes ns).finish? = some (.seqOf ns) := by
  have hnode : (ofNodes ns).level.content.node = .seqOf ns := by
    have hcurrent := (ofNodes ns).level.current_node
    simpa [ofNodes, Level.content, Function.comp_def] using hcurrent
  simp [finish?, hnode, h]

end Reading

namespace PlainPattern

open Reading (ofNodes)

section Signs

-- The equations of both readers are long: they are made here once, and not by all the lemmas below
-- at the same time.
attribute [local simp] step? escape?

/-- A sign that a backslash takes its meaning from is read as itself without one. -/
theorem step_of_not_isMeta {c : Char} (h : isMeta c = false) (r : Reading) (rest : Text) :
    step? r c rest = some (r.pushLiteral c, rest) := by
  simp only [isMeta, List.mem_cons, List.not_mem_nil, or_false, decide_eq_false_iff_not,
    not_or] at h
  simp [h]

theorem step_backslash {c : Char} (h : isMeta c) (r : Reading) (rest : Text) :
    step? r '\\' (c :: rest) = some (r.pushLiteral c, rest) := by
  simp [h]

end Signs

/-- Reading `s`, where `rest` follows, puts in the nodes `ns`. -/
def Reads (s rest : Text) (ns : List Node) : Prop :=
  ∃ k ≤ s.length, ∀ steps done,
    read? (steps + k) (ofNodes done) (s ++ rest) = read? steps (ofNodes (done ++ ns)) rest

namespace Reads

theorem nil (rest : Text) : Reads [] rest [] :=
  ⟨0, Nat.le_refl 0, fun steps done => by simp⟩

theorem append {s s' rest : Text} {ns ns' : List Node} (h : Reads s (s' ++ rest) ns)
    (h' : Reads s' rest ns') : Reads (s ++ s') rest (ns ++ ns') := by
  obtain ⟨k, hk, h⟩ := h
  obtain ⟨k', hk', h'⟩ := h'
  refine ⟨k' + k, by rw [List.length_append]; omega, fun steps done => ?_⟩
  rw [List.append_assoc, ← Nat.add_assoc, h, h', List.append_assoc]

/-- A sign that puts in a node. -/
theorem of_step {c : Char} {s rest : Text} {n : Node}
    (h : ∀ done, step? (ofNodes done) c (s ++ rest) = some (ofNodes (done ++ [n]), rest)) :
    Reads (c :: s) rest [n] := by
  refine ⟨1, by simp, fun steps done => ?_⟩
  simp [read?, blanks, h]

/-- A piece and a star, where no question mark follows. -/
theorem star {s rest : Text} {n : Node} (h : Reads s ('*' :: rest) [n])
    (hrest : ∀ t, rest ≠ '?' :: t) : Reads (s ++ ['*']) rest [.rep 0 none true n] := by
  obtain ⟨k, hk, h⟩ := h
  refine ⟨1 + k, by simp; omega, fun steps done => ?_⟩
  rw [List.append_assoc, List.singleton_append, ← Nat.add_assoc, h]
  have hstep : step? (ofNodes (done ++ [n])) '*' rest =
      some (ofNodes (done ++ [.rep 0 none true n]), rest) := by
    simp only [step?, quantify?, Reading.canRepeat_ofNodes, if_true]
    rw [Reading.mapLast_ofNodes]
    rfl
  simp [read?, blanks, hstep]

theorem parse {s : Text} {ns : List Node} (h : Reads s [] ns)
    (hns : (Node.seqOf ns).greatestAgain = 0) : parse? s = some (.seqOf ns, 0) := by
  obtain ⟨k, hk, h⟩ := h
  have hread := h (s.length - k) []
  rw [Nat.sub_add_cancel hk] at hread
  have hend : read? (s.length - k) (ofNodes ns) [] = some (ofNodes ns) := by
    cases s.length - k with
    | zero => rfl
    | succ n => rfl
  simp only [List.append_nil, List.nil_append, hend] at hread
  have hstart : ofNodes [] = { flags := {} } := rfl
  rw [hstart] at hread
  simp [parse?, hread, Reading.finish_ofNodes hns]

end Reads

theorem reads_escape (t rest : Text) :
    Reads (escape t) rest (t.map fun c => .one (.single c)) := by
  induction t with
  | nil => exact Reads.nil rest
  | cons c t ih =>
    by_cases h : isMeta c
    · have hc : Reads ['\\', c] (escape t ++ rest) [.one (.single c)] :=
        Reads.of_step fun done => by simp [step_backslash h]
      simpa [escape, h] using hc.append ih
    · have hc : Reads [c] (escape t ++ rest) [.one (.single c)] :=
        Reads.of_step fun done => by simp [step_of_not_isMeta (by simpa using h)]
      simpa [escape, h] using hc.append ih

/-- An escaped text starts with no sign but a backslash. -/
theorem escape_append_ne {t : Text} (ht : t ≠ []) {d : Char} (hd : isMeta d) (hd' : d ≠ '\\')
    (rest s : Text) : escape t ++ rest ≠ d :: s := by
  cases t with
  | nil => exact absurd rfl ht
  | cons c t =>
    by_cases h : isMeta c
    · simp [escape, h, hd'.symm]
    · have hne : c ≠ d := fun hcd => h (hcd ▸ hd)
      simp [escape, h, hne]

theorem reads_blanks {rest : Text} (hrest : ∀ t, rest ≠ '?' :: t) :
    Reads ['\\', 's', '*'] rest [.rep 0 none true (.one .blank)] := by
  have hset : Reads ['\\', 's'] ('*' :: rest) [.one .blank] :=
    Reads.of_step fun done => by simp [step?, escape?, isMeta]
  exact hset.star hrest

theorem reads_wordBoundary {rest : Text} (hrest : ∀ t, rest ≠ '\x7b' :: t) :
    Reads ['\\', 'b'] rest [.assert .wordBoundary] := by
  refine Reads.of_step fun done => ?_
  have hname : isBoundaryName rest = false := by
    unfold isBoundaryName
    split
    next c t => exact absurd rfl (hrest (c :: t))
    next => rfl
  simp [step?, escape?, isMeta, hname]

theorem reads_textStart (rest : Text) : Reads ['^'] rest [.assert .textStart] :=
  Reads.of_step fun done => by simp [step?, PatternFlags.circumflex]

theorem reads_textEnd (rest : Text) : Reads ['$'] rest [.assert .textEnd] :=
  Reads.of_step fun done => by simp [step?, PatternFlags.dollar]

end PlainPattern

end Keystroke
