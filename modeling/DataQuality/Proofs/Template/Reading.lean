import DataQuality.Proofs.Template.Expression

/-!
The grammar on plain templates: their spelling is read as their syntax tree, `Plain.nodes`.
-/

namespace DataQuality.Template

/-- How a part of a template stands for a node. -/
def Node.part : Node → Part
  | .text s => .text s.toList
  | node => .tag false false (some node)

/-- Without hyphens nothing is trimmed. -/
theorem settle_part (nodes : List Node) (h : ∀ node ∈ nodes, node ≠ .text "") :
    settle false false (nodes.map Node.part) = nodes := by
  induction nodes with
  | nil => rfl
  | cons node nodes ih =>
    rw [List.forall_mem_cons] at h
    have hrest := ih h.2
    cases node with
    | text s =>
      have hs : s.toList.isEmpty = false := by
        rw [List.isEmpty_eq_false_iff]
        intro hnil
        exact h.1 (by rw [String.toList_eq_nil_iff.1 hnil])
      simp only [List.map_cons, Node.part, settle]
      rw [hrest]
      cases nodes with
      | nil => simp [hs]
      | cons node nodes => cases node <;> simp [Node.part, hs]
    | _ => simp [Node.part, settle, hrest]

theorem splitWhere_append {stops : List Char → Bool} {s r : List Char}
    (hs : ∀ c ∈ s, ∀ t, stops (c :: t) = false) (hr : splitWhere stops r = ([], r)) :
    splitWhere stops (s ++ r) = (s, r) := by
  induction s with
  | nil => exact hr
  | cons c s ih =>
    rw [List.forall_mem_cons] at hs
    simp [splitWhere, hs.1, ih hs.2]

theorem opensTag_of_ne {c : Char} (h : c ≠ '\x7b') (r : List Char) : opensTag (c :: r) = false := by
  unfold opensTag
  split
  . next heq => exact absurd (List.cons.inj heq).1 h
  . rfl

theorem splitWhere_of_stops {stops : List Char → Bool} {s : List Char} (h : stops s = true) :
    splitWhere stops s = ([], s) := by
  cases s with
  | nil => rfl
  | cons c r => rw [splitWhere, if_pos h]

namespace Plain

def textNode (s : List Char) : List Node := if s.isEmpty then [] else [.text (.ofList s)]

/-- The syntax tree. The text that came before and belongs to the same node is passed on. -/
def nodes (pending : List Char) : Plain → List Node
  | .done => textNode pending
  | .text s rest => rest.nodes (pending ++ s.text.toList)
  | .output v rest => textNode pending ++ .output v.expr :: rest.nodes []
  | .loop item list body rest =>
    textNode pending ++ .loop none item.text list.expr (body.nodes []) [] :: rest.nodes []
  | .branch condition body rest =>
    textNode pending ++ .branch [(condition.expr, body.nodes [])] [] :: rest.nodes []

/-- All variables are read as such. -/
def IsOrdinary (t : Plain) : Prop := ∀ v ∈ t.reads, v.IsOrdinary

theorem ne_of_mem_textNode {s : List Char} {node : Node} (h : node ∈ textNode s) :
    node ≠ .text "" := by
  unfold textNode at h
  split at h
  . cases h
  . next hs =>
    rw [List.mem_singleton.1 h]
    intro heq
    injection heq with heq
    exact hs (by simpa using congrArg String.toList heq)

theorem ne_of_mem_append {s : List Char} {node : Node} {nodes : List Node}
    (hnode : node ≠ .text "") (hnodes : ∀ other ∈ nodes, other ≠ .text "") :
    ∀ other ∈ textNode s ++ node :: nodes, other ≠ .text "" := by
  rw [List.forall_mem_append, List.forall_mem_cons]
  exact ⟨fun other h => ne_of_mem_textNode h, hnode, hnodes⟩

theorem ne_of_mem_nodes {t : Plain} {pending : List Char} :
    ∀ node ∈ t.nodes pending, node ≠ .text "" := by
  induction t generalizing pending with
  | done => exact fun node h => ne_of_mem_textNode h
  | text s rest ih => exact ih
  | output v rest ih => exact ne_of_mem_append Node.noConfusion ih
  | loop item list body rest _ ih => exact ne_of_mem_append Node.noConfusion ih
  | branch c body rest _ ih => exact ne_of_mem_append Node.noConfusion ih

section

variable {v : Name} {c : Condition} {inLoop : Bool} (r : List Char)

theorem simpleTag?_output (hv : v.IsOrdinary) :
    simpleTag? inLoop (outputTag v ++ r) = some (.tag false false (some (.output v.expr)), r) := by
  have hstart (s : List Char) :
      tagStart? '\x7b' ('\x7b' :: '\x7b' :: ' ' :: s) = some (false, ' ' :: s) := rfl
  have hskip : skipSpace (' ' :: (v.source ++ ' ' :: '\x7d' :: '\x7d' :: r))
      = v.source ++ ' ' :: '\x7d' :: '\x7d' :: r := v.skipSpace_source _
  have hend : tagEnd? '\x7d' (' ' :: '\x7d' :: '\x7d' :: r) = some (false, r) := rfl
  rw [outputTag_append, simpleTag?, hstart]
  simp [hskip, Name.value?_source hv, hend]

theorem tag?_statementTag {α : Type} {word : String} {read? : List Char → Option (α × List Char)}
    {content : List Char} {a : α}
    (hword : ∀ s, word? word (skipSpace (' ' :: (word.toList ++ ' ' :: s))) = some (' ' :: s))
    (hskip : ∀ s, skipSpace (content ++ s) = content ++ s)
    (hread : read? (content ++ ' ' :: '%' :: '\x7d' :: r) = some (a, ' ' :: '%' :: '\x7d' :: r)) :
    tag? word read? (statementTag (word.toList ++ ' ' :: content) ++ r)
      =
    some ((false, false), a, r) := by
  have hstart (s : List Char) :
      tagStart? '%' ('\x7b' :: '%' :: ' ' :: s) = some (false, ' ' :: s) := rfl
  have hspace (s : List Char) : skipSpace (' ' :: s) = skipSpace s := rfl
  have hend : tagEnd? '%' (' ' :: '%' :: '\x7d' :: r) = some (false, r) := rfl
  rw [statementTag_append, List.append_assoc, List.cons_append, tag?, hstart]
  simp only [Option.bind_eq_bind, Option.bind_some, hword]
  rw [hspace, hskip, hread]
  simp [hend]

theorem tag?_loop (item : Name) (hv : v.IsOrdinary) :
    tag? "for" loopHeader? (loopTag item v ++ r)
      =
    some ((false, false), (none, item.text, v.expr), r) := by
  have htag : loopTag item v
      = statementTag
        ("for".toList ++ ' ' :: (item.source ++ ' ' :: 'i' :: 'n' :: ' ' :: v.source)) := by
    simp [loopTag]
  have hread := Name.loopHeader?_source item hv r
  rw [htag]
  apply tag?_statementTag r (fun s => rfl)
  . intro s
    rw [List.append_assoc, item.skipSpace_source]
  . simpa using hread

theorem tag?_branch (hc : c.IsOrdinary) :
    tag? "if" condition? (branchTag c ++ r) = some ((false, false), c.expr, r) := by
  have htag : branchTag c = statementTag ("if".toList ++ ' ' :: c.source) := rfl
  rw [htag]
  apply tag?_statementTag r (fun s => rfl)
  . intro s
    rw [c.source_eq, List.append_assoc, Literal.skipSpace_source]
  . exact Condition.condition?_source hc r

theorem simpleTag?_loop (item : Name) : simpleTag? inLoop (loopTag item v ++ r) = none := by
  rw [loopTag_append]
  cases inLoop <;> rfl

theorem simpleTag?_branch : simpleTag? inLoop (branchTag c ++ r) = none := by
  rw [branchTag_append]
  cases inLoop <;> rfl

theorem tag?_if_loop (item : Name) : tag? "if" condition? (loopTag item v ++ r) = none := by
  rw [loopTag_append]
  rfl

theorem wordTag?_end {word : String} (h : word = "endfor" ∨ word = "endif") :
    wordTag? word (statementTag word.toList ++ r) = some ((false, false), r) := by
  rw [statementTag_append]
  rcases h with rfl | rfl <;> rfl

theorem wordTag?_else {word : String} (h : word = "endfor" ∨ word = "endif") :
    wordTag? "else" (statementTag word.toList ++ r) = none := by
  rw [statementTag_append]
  rcases h with rfl | rfl <;> rfl

theorem tag?_elif : tag? "elif" condition? (statementTag "endif".toList ++ r) = none := by
  rw [statementTag_append]
  rfl

theorem part_end {word : String} (h : word = "endfor" ∨ word = "endif") (fuel : Nat) :
    part fuel inLoop (statementTag word.toList ++ r) = none := by
  rw [statementTag_append]
  cases fuel with
  | zero => rfl
  | succ fuel => rcases h with rfl | rfl <;> cases inLoop <;> rfl

end

/-- A place where a body ends. -/
structure Ends (r : List Char) : Prop where
  split : splitWhere opensTag r = ([], r)
  body_eq : ∀ fuel inLoop, body (fuel + 1) inLoop r = some ([], r)

theorem ends_nil : Ends [] := ⟨rfl, fun _ _ => rfl⟩

theorem opensTag_statementTag (content r : List Char) :
    opensTag (statementTag content ++ r) = true := by
  rw [statementTag_append]
  rfl

theorem body_tag {s r : List Char} (hs : opensTag s = true) {fuel : Nat} {inLoop : Bool}
    {found : Part} (h : part fuel inLoop s = some (found, r)) :
    body (fuel + 1) inLoop s
      =
    (body fuel inLoop r).map fun (more, rest) => (found :: more, rest) := by
  cases s with
  | nil => cases hs
  | cons c s =>
    rw [body, splitWhere_of_stops hs]
    dsimp only
    rw [h]

theorem body_of_part {s : List Char} (hs : opensTag s = true) {fuel : Nat} {inLoop : Bool}
    (h : part fuel inLoop s = none) : body (fuel + 1) inLoop s = some ([], s) := by
  cases s with
  | nil => cases hs
  | cons c s =>
    rw [body, splitWhere_of_stops hs]
    dsimp only
    rw [h]

theorem ends_endTag {word : String} (h : word = "endfor" ∨ word = "endif") (r : List Char) :
    Ends (statementTag word.toList ++ r) := by
  have hopens := opensTag_statementTag word.toList r
  constructor
  case split => exact splitWhere_of_stops hopens
  case body_eq =>
    intro fuel inLoop
    exact body_of_part hopens (part_end r h fuel)

section

variable {pending s r : List Char} {inLoop : Bool} {found : List Part}

theorem body_pending (hpending : '\x7b' ∉ pending)
    (hsplit : splitWhere opensTag s = ([], s)) {length : Nat}
    (h : ∀ fuel, length < fuel → body fuel inLoop s = some (found, r)) {fuel : Nat}
    (hfuel : pending.length + length < fuel) :
    body fuel inLoop (pending ++ s)
      =
    some ((textNode pending).map Node.part ++ found, r) := by
  cases pending with
  | nil =>
    rw [List.length_nil, Nat.zero_add] at hfuel
    exact h fuel hfuel
  | cons c pending =>
    match fuel, hfuel with
    | fuel + 1, hfuel =>
      have hrest : body fuel inLoop s = some (found, r) := by
        apply h
        rw [List.length_cons] at hfuel
        omega
      have htext : splitWhere opensTag (c :: pending ++ s) = (c :: pending, s) :=
        splitWhere_append (fun d hd t => opensTag_of_ne (ne_of_mem_of_not_mem hd hpending) t) hsplit
      rw [body, htext]
      dsimp only
      rw [hrest]
      simp [textNode, Node.part]

theorem body_node {node : Node} {nodes : List Node} (rest : List Char)
    (hpending : '\x7b' ∉ pending) (hs : opensTag s = true) {length : Nat}
    (hpart : ∀ fuel, length ≤ fuel → part fuel inLoop s = some (node.part, rest))
    (hrest : ∀ fuel, length ≤ fuel → body fuel inLoop rest = some (nodes.map Node.part, r))
    {fuel : Nat} (hfuel : pending.length + length < fuel) :
    body fuel inLoop (pending ++ s)
      =
    some ((textNode pending ++ node :: nodes).map Node.part, r) := by
  rw [List.map_append, List.map_cons]
  apply body_pending hpending (splitWhere_of_stops hs) ?_ hfuel
  intro fuel hfuel
  match fuel, hfuel with
  | fuel + 1, hfuel =>
    have hfuel := Nat.le_of_lt_succ hfuel
    rw [body_tag hs (hpart fuel hfuel), hrest fuel hfuel]
    rfl

end

theorem opensTag_outputTag (v : Name) (r : List Char) : opensTag (outputTag v ++ r) = true := by
  rw [outputTag_append]
  rfl

theorem length_outputTag (v : Name) : 0 < (outputTag v).length := by
  simp [outputTag]

theorem length_statementTag (content : List Char) : 2 < (statementTag content).length := by
  simp [statementTag]

section

variable {inLoop : Bool} {fuel : Nat} {nodes : List Node}

theorem part_output {v : Name} (hv : v.IsOrdinary) (hfuel : 0 < fuel) (r : List Char) :
    part fuel inLoop (outputTag v ++ r) = some (.tag false false (some (.output v.expr)), r) := by
  match fuel, hfuel with
  | fuel + 1, _ => rw [part, simpleTag?_output r hv]

theorem part_loop (item : Name) {list : Name} (hlist : list.IsOrdinary) {s r : List Char}
    (hnodes : ∀ node ∈ nodes, node ≠ .text "")
    (hbody : body fuel true (s ++ (statementTag "endfor".toList ++ r))
      = some (nodes.map Node.part, statementTag "endfor".toList ++ r)) :
    part (fuel + 1) inLoop (loopTag item list ++ (s ++ (statementTag "endfor".toList ++ r)))
      =
    some (.tag false false (some (.loop none item.text list.expr nodes [])), r) := by
  rw [part, simpleTag?_loop, tag?_if_loop, tag?_loop _ item hlist]
  simp only [Option.bind_eq_bind, hbody, Option.bind_some, wordTag?_else r (.inl rfl),
    wordTag?_end r (.inl rfl), settle_part nodes hnodes]
  rfl

theorem part_branch {c : Condition} (hc : c.IsOrdinary) {s r : List Char}
    (hnodes : ∀ node ∈ nodes, node ≠ .text "")
    (hbody : body fuel inLoop (s ++ (statementTag "endif".toList ++ r))
      = some (nodes.map Node.part, statementTag "endif".toList ++ r)) :
    part (fuel + 2) inLoop (branchTag c ++ (s ++ (statementTag "endif".toList ++ r)))
      =
    some (.tag false false (some (.branch [(c.expr, nodes)] [])), r) := by
  rw [part, simpleTag?_branch, tag?_branch _ hc]
  simp only [Option.bind_eq_bind, branches, hbody, Option.bind_some, tag?_elif,
    wordTag?_else r (.inr rfl), wordTag?_end r (.inr rfl), settle_part nodes hnodes]
  rfl

end

/-- The grammar reads the spelling of a template as its syntax tree, up to where the body ends. -/
theorem body_source (t : Plain) (ht : t.IsOrdinary) {pending r : List Char}
    (hpending : '\x7b' ∉ pending) (hr : Ends r) {inLoop : Bool} {fuel : Nat}
    (hfuel : pending.length + t.source.length < fuel) :
    body fuel inLoop (pending ++ (t.source ++ r)) = some ((t.nodes pending).map Node.part, r) := by
  have hnil : '\x7b' ∉ ([] : List Char) := List.not_mem_nil
  -- `pending` was read already and goes to the same node as the text that `t` starts with, if any.
  -- The fuel lasts since each of the readers that use it up is paid for by a character.
  induction t generalizing pending r inLoop fuel with
  | done =>
    have h : ∀ fuel, 0 < fuel → body fuel inLoop r = some ([], r) := by
      intro fuel hfuel
      match fuel, hfuel with
      | fuel + 1, _ => exact hr.body_eq fuel inLoop
    have := body_pending hpending hr.split h hfuel
    rw [List.append_nil] at this
    exact this
  | text s rest ih =>
    have hs : '\x7b' ∉ pending ++ s.text.toList := List.not_mem_append hpending s.form.1
    unfold source nodes
    rw [List.append_assoc, ← List.append_assoc]
    apply ih ht hs hr
    simp only [source, List.length_append] at hfuel ⊢
    omega
  | output v rest ih =>
    have hlength := length_outputTag v
    unfold IsOrdinary reads at ht
    rw [List.forall_mem_cons] at ht
    unfold source at hfuel ⊢
    unfold nodes
    rw [List.length_append] at hfuel
    rw [List.append_assoc]
    refine body_node (rest.source ++ r) hpending (opensTag_outputTag v _) ?_ ?_ hfuel
    . intro fuel hfuel
      exact part_output ht.1 (by omega) _
    . intro fuel hfuel
      exact ih ht.2 hnil hr (by rw [List.length_nil]; omega)
  | loop item list body rest ihBody ihRest =>
    have hlength : 2 < (loopTag item list).length := length_statementTag _
    unfold IsOrdinary reads at ht
    rw [List.forall_mem_append, List.forall_mem_cons] at ht
    obtain ⟨⟨hlist, hbody⟩, hrest⟩ := ht
    unfold source at hfuel ⊢
    unfold nodes
    simp only [List.length_append] at hfuel
    simp only [List.append_assoc]
    refine body_node (rest.source ++ r) hpending (opensTag_statementTag _ _) ?_ ?_ hfuel
    . intro fuel hfuel
      obtain ⟨n, rfl⟩ : ∃ n, fuel = n + 1 := Nat.exists_eq_add_one.2 (by omega)
      apply part_loop item hlist ne_of_mem_nodes
      exact ihBody hbody hnil (ends_endTag (.inl rfl) _) (by rw [List.length_nil]; omega)
    . intro fuel hfuel
      exact ihRest hrest hnil hr (by rw [List.length_nil]; omega)
  | branch c body rest ihBody ihRest =>
    have hlength : 2 < (branchTag c).length := length_statementTag _
    unfold IsOrdinary reads at ht
    rw [List.forall_mem_append, List.forall_mem_append, List.forall_mem_map] at ht
    obtain ⟨⟨hc, hbody⟩, hrest⟩ := ht
    unfold source at hfuel ⊢
    unfold nodes
    simp only [List.length_append] at hfuel
    simp only [List.append_assoc]
    refine body_node (rest.source ++ r) hpending (opensTag_statementTag _ _) ?_ ?_ hfuel
    . intro fuel hfuel
      obtain ⟨n, rfl⟩ : ∃ n, fuel = n + 2 := ⟨fuel - 2, by omega⟩
      apply part_branch hc ne_of_mem_nodes
      exact ihBody hbody hnil (ends_endTag (.inr rfl) _) (by rw [List.length_nil]; omega)
    . intro fuel hfuel
      exact ihRest hrest hnil hr (by rw [List.length_nil]; omega)

theorem parse?_source (t : Plain) (ht : t.IsOrdinary) :
    parse? (.ofList t.source) = some (t.nodes []) := by
  have h : body (4 * t.source.length + 4) false ([] ++ (t.source ++ []))
      = some ((t.nodes []).map Node.part, []) := by
    apply body_source t ht List.not_mem_nil ends_nil
    rw [List.length_nil]
    omega
  rw [List.nil_append, List.append_nil] at h
  unfold parse?
  dsimp only
  rw [String.toList_ofList, h]
  dsimp only
  rw [settle_part _ ne_of_mem_nodes]

end Plain

end DataQuality.Template
