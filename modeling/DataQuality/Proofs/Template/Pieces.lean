import DataQuality.Proofs.Template.Listing

/-!
Templates that are rows of texts, variables, and lists with separators, joined by a filter or by a
loop. The text of such a template is known as soon as its variables have values. Main statement:
`renderText_of_isRow`.
-/

namespace DataQuality.Template

open Json (Value)

def Part.node : Part → Node
  | .text s => .text (.ofList s)
  | .tag _ _ node => node.getD (.text "")

/-- Whether a part stands for a node, next to which nothing is trimmed. -/
def Part.isPlain : Part → Bool
  | .text s => !s.isEmpty
  | .tag left right node => !left && !right && node.isSome

theorem settle_of_isPlain {parts : List Part} (h : parts.all Part.isPlain = true) :
    settle false false parts = parts.map Part.node := by
  induction parts with
  | nil => rfl
  | cons part rest ih =>
    rw [List.all_cons, Bool.and_eq_true] at h
    obtain ⟨hpart, hrest⟩ := h
    cases part with
    | text s =>
      unfold Part.isPlain at hpart
      rw [Bool.not_eq_true'] at hpart
      unfold settle
      rw [ih hrest]
      cases rest with
      | nil => simp [hpart, Part.node]
      | cons next more =>
        cases next with
        | text t => simp [hpart, Part.node]
        | tag left right node =>
          simp only [List.all_cons, Part.isPlain, Bool.and_eq_true, Bool.not_eq_true'] at hrest
          simp [hpart, hrest.1.1.1, Part.node]
    | tag left right node =>
      simp only [Part.isPlain, Bool.and_eq_true, Bool.not_eq_true', Option.isSome_iff_exists]
        at hpart
      obtain ⟨⟨_, rfl⟩, node, rfl⟩ := hpart
      unfold settle
      rw [ih hrest]
      rfl

theorem parse?_of_isPlain {template : String} {parts : List Part}
    (h : body (4 * template.toList.length + 4) false template.toList = some (parts, []))
    (hplain : parts.all Part.isPlain = true) : parse? template = some (parts.map Part.node) := by
  unfold parse?
  dsimp only
  rw [h]
  dsimp only
  rw [settle_of_isPlain hplain]

/-- A variable whose list is joined with a separator. -/
def Expr.isJoined (name separator : String) : Expr → Bool
  | .mk (.path (.mk text head [])) false [.mk "join" [("sep", .mk (.text sep) false [])]] =>
    text == name && head == name && name != "__tera_context" && sep == separator
  | _ => false

theorem Expr.value_of_isJoined {name separator : String} {e : Expr}
    (h : e.isJoined name separator = true) {s : Scope} {items : List Value}
    (hv : s.find? name [] = some (.array items)) :
    e.value s
      =
    .ok (.string (Text.join (Filter.separatorText separator) (items.map textOf))) := by
  unfold isJoined at h
  split at h
  . next text head sep =>
    simp only [Bool.and_eq_true, beq_iff_eq, bne_iff_ne] at h
    obtain ⟨⟨⟨rfl, rfl⟩, htext⟩, rfl⟩ := h
    unfold value
    rw [meaning, Term.meaning, Scope.read_name htext hv]
    rfl
  . cases h

/-- A piece of a template: a text, a variable, or one whose list is joined with a separator, as it
is or with each of its items between two texts. -/
inductive Piece
  | text (s : String)
  | slot (name : String)
  | joined (name separator : String)
  | listed (item name front back separator : String)

namespace Piece

def fits : Piece → Node → Bool
  | text s, .text t => s == t
  | slot name, .output e => e.isVariable name
  | joined name separator, .output e => e.isJoined name separator
  | listed item name front back separator, node => node.isListing item name front back separator
  | _, _ => false

/-- What stands in the text of a template for a piece of it. -/
inductive Yields (params : Dict Value) : Piece → String → Prop
  | text (s : String) : Yields params (text s) s
  | slot {name : String} {v : Value} (h : params.find? name = some v) :
    Yields params (slot name) (textOf v)
  | joined {name : String} {items : List Value} (h : params.find? name = some (.array items))
    (separator : String) :
    Yields params (joined name separator)
      (Text.join (Filter.separatorText separator) (items.map textOf))
  | listed {name : String} {items : List Value} (h : params.find? name = some (.array items))
    (item front back separator : String) :
    Yields params (listed item name front back separator)
      (Text.join separator (items.map fun a => front ++ textOf a ++ back))

theorem render_of_fits {p : Piece} {node : Node} (hfits : p.fits node = true)
    {params : Dict Value} {text : String} (h : p.Yields params text) :
    node.render (.ofParams params) = .ok ⟨text, .ofParams params, .onward⟩ := by
  have hfind {name : String} {v : Value} (h : params.find? name = some v) :
      (Scope.ofParams params).find? name [] = some v := by
    rw [Scope.agrees_ofParams, Env.ofParams, h]
  cases h with
  | text =>
    cases node with
    | text t =>
      have ht : text = t := beq_iff_eq.1 hfits
      rw [Node.render, ht]
      rfl
    | _ => cases hfits
  | slot h =>
    cases node with
    | output e =>
      rw [Node.render, Expr.value_of_isVariable hfits (hfind h)]
      rfl
    | _ => cases hfits
  | joined h separator =>
    cases node with
    | output e =>
      rw [Node.render, Expr.value_of_isJoined hfits (hfind h)]
      rfl
    | _ => cases hfits
  | @listed name _ h item front back separator =>
    have hlisting : node.isListing item name front back separator = true := by
      cases node <;> exact hfits
    exact render_of_isListing hlisting (hfind h)

theorem forall₂_render {pieces : List Piece} {nodes : List Node} {params : Dict Value}
    {texts : List String} (hfits : List.Forall₂ (fun p node => p.fits node = true) pieces nodes)
    (htexts : List.Forall₂ (Yields params) pieces texts) :
    List.Forall₂
      (fun node text => node.render (.ofParams params) = .ok ⟨text, .ofParams params, .onward⟩)
      nodes texts := by
  induction hfits generalizing texts with
  | nil =>
    cases htexts
    exact .nil
  | cons hnode _ ih =>
    cases htexts with
    | cons htext htexts => exact .cons (render_of_fits hnode htext) (ih htexts)

end Piece

/-- Whether the characters of a template are those of a row of pieces. -/
def isRow (pieces : List Piece) (s : List Char) : Bool :=
  match body (4 * s.length + 4) false s with
  | some (parts, []) => parts.all Part.isPlain && pieces.all₂ Piece.fits (parts.map Part.node)
  | _ => false

theorem renderText_of_isRow {pieces : List Piece} {template : String}
    (h : isRow pieces template.toList = true) {params : Dict Value} {texts : List String}
    (htexts : List.Forall₂ (Piece.Yields params) pieces texts) (rule : String) :
    renderText rule template params = .ok (String.join texts) := by
  unfold isRow at h
  split at h
  . next parts hparts =>
    rw [Bool.and_eq_true, List.all₂_eq_true] at h
    have hrender := renderNodes_of_forall₂ (Piece.forall₂_render h.2 htexts)
    unfold renderText
    rw [parse?_of_isPlain hparts h.1]
    dsimp only
    rw [hrender]
    rfl
  . cases h

end DataQuality.Template
