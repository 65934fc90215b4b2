import GcpMonitor.Library.ExceptList
import GcpMonitor.Metrics.Service

namespace GcpMonitor.Metrics

open Python ExceptList

inductive Token where
  | brackets (name : Text)
  | var (name : Text)
  deriving DecidableEq

namespace Token

def name : Token → Text
  | brackets name => name
  | var name => name

def toText : Token → Text
  | brackets name => '{' :: name ++ ['}']
  | var name => "var:".toList ++ name

theorem toText_ne_nil (token : Token) : token.toText ≠ [] := by
  cases token <;> simp [toText]

end Token

inductive Piece where
  | text (s : Text)
  | placeholder (token : Token)
  deriving DecidableEq

section

variable (value : Text → Text)

def Piece.render (done : List Token) : Piece → Text
  | .text s => s
  | .placeholder token => if token ∈ done then value token.name else token.toText

def render (done : List Token) (pieces : List Piece) : Text :=
  pieces.flatMap (Piece.render value done)

def replaceToken (s : Text) (token : Token) : Text := s.replaceAll token.toText (value token.name)

/-- Wherever the token stands in the text as it is so far, it stands there as a token of the
template. -/
def Isolated (pieces : List Piece) (done : List Token) (token : Token) : Prop :=
  ∀ u w, render value done pieces = u ++ token.toText ++ w →
    ∃ before after, pieces = before ++ .placeholder token :: after ∧ render value done before = u

def activationVar (name : Text) : Yaml × Yaml := (.str name, .str (value name))

def tokensOf (names : List Text) : List Token :=
  names.flatMap (fun name => [.brackets name, .var name])

/-- The template is made of texts and of tokens in such a way that in every order of the variables
nothing but its own tokens is replaced. -/
def ReplacesOnlyTokens (names : List Text) (template : Text) (pieces : List Piece) : Prop :=
  render value [] pieces = template ∧
    ∀ replaced name, (∀ other ∈ replaced, other ∈ names) → name ∈ names → name ∉ replaced →
      Isolated value pieces (tokensOf replaced) (.brackets name) ∧
      Isolated value pieces (.brackets name :: tokensOf replaced) (.var name)

end

section

variable {value : Text → Text} {pieces : List Piece} {done : List Token} {token : Token}

theorem mem_tokensOf {names : List Text} : token ∈ tokensOf names ↔ token.name ∈ names := by
  rw [tokensOf, List.mem_flatMap]
  constructor
  · rintro ⟨name, hname, htoken⟩
    simp only [List.mem_cons, List.not_mem_nil, or_false] at htoken
    rcases htoken with rfl | rfl <;> exact hname
  · intro hname
    refine ⟨token.name, hname, ?_⟩
    cases token <;> simp [Token.name]

theorem render_congr {done' : List Token}
    (h : ∀ token, Piece.placeholder token ∈ pieces → (token ∈ done ↔ token ∈ done')) :
    render value done pieces = render value done' pieces := by
  rw [render, render]
  apply List.flatMap_congr
  intro piece hpiece
  cases piece with
  | text s => rfl
  | placeholder token => simp only [Piece.render, h token hpiece]

theorem render_tokensOf_congr {names names' : List Text}
    (h : ∀ name, name ∈ names ↔ name ∈ names') :
    render value (tokensOf names) pieces = render value (tokensOf names') pieces := by
  apply render_congr
  intro token _
  rw [mem_tokensOf, mem_tokensOf, h]

theorem render_append (before after : List Piece) :
    render value done (before ++ after) = render value done before ++ render value done after :=
  List.flatMap_append

theorem render_placeholder (before after : List Piece) :
    render value done (before ++ .placeholder token :: after) =
      render value done before ++ (if token ∈ done then value token.name else token.toText) ++
        render value done after := by
  rw [render_append, List.append_assoc]
  rfl

theorem render_eq_nil (h : render value [] pieces = []) : render value done pieces = [] := by
  rw [render, List.flatMap_eq_nil_iff] at h ⊢
  intro piece hpiece
  cases piece with
  | text s => exact h _ hpiece
  | placeholder token => exact absurd (h _ hpiece) token.toText_ne_nil

def Piece.chunk (value : Text → Text) (done : List Token) (token : Token) (piece : Piece) :
    Option Text :=
  if piece = .placeholder token then none else some (piece.render value done)

theorem getD_chunk (htoken : token ∉ done) (piece : Piece) :
    (piece.chunk value done token).getD token.toText = piece.render value done := by
  rw [Piece.chunk]
  split_ifs with h
  · rw [h, Option.getD_none, Piece.render, if_neg htoken]
  · rfl

theorem getD_chunk_value (piece : Piece) :
    (piece.chunk value done token).getD (value token.name) =
      piece.render value (token :: done) := by
  rw [Piece.chunk]
  split_ifs with h
  · rw [h, Option.getD_none, Piece.render, if_pos List.mem_cons_self]
  · cases piece with
    | text s => rfl
    | placeholder other =>
      have hne : other ≠ token := fun heq => h (congrArg Piece.placeholder heq)
      simp only [Option.getD_some, Piece.render, List.mem_cons, hne, false_or]

theorem render_chunks (htoken : token ∉ done) (pieces : List Piece) :
    (pieces.map (Piece.chunk value done token)).flatMap (fun chunk => chunk.getD token.toText) =
      render value done pieces := by
  rw [List.flatMap_map, render]
  congr 1
  funext piece
  exact getD_chunk htoken piece

theorem replaceToken_render (htoken : token ∉ done) (h : Isolated value pieces done token) :
    replaceToken value (render value done pieces) token =
      render value (token :: done) pieces := by
  rw [replaceToken, ← render_chunks htoken, Text.replaceAll_chunks token.toText_ne_nil]
  · rw [List.flatMap_map, render]
    congr 1
    funext piece
    exact getD_chunk_value piece
  · intro u w hu
    rw [render_chunks htoken] at hu
    obtain ⟨before, after, rfl, hbefore⟩ := h u w hu
    refine ⟨before.map (Piece.chunk value done token), after.map (Piece.chunk value done token),
      ?_, ?_⟩
    · rw [List.map_append, List.map_cons, Piece.chunk, if_pos rfl]
    · rw [render_chunks htoken, hbefore]

theorem brackets_not_infix_var {k : Text} (u w : Text) :
    u ++ (Token.brackets k).toText ++ w ≠ "var:".toList ++ k := by
  intro h
  have hlength := congrArg List.length h
  rw [Token.toText] at h hlength
  match u with
  | [] | [_] | [_, _] => simp at h
  | _ :: _ :: _ :: u =>
    simp at hlength
    omega

theorem applyVariable_render {Y : YamlLibrary} (hstr : ∀ s, Y.str (.str s) = s)
    {replaced : List Text} {name : Text} (hname : name ∉ replaced)
    (hbrackets : Isolated value pieces (tokensOf replaced) (.brackets name))
    (hvar : Isolated value pieces (.brackets name :: tokensOf replaced) (.var name)) :
    applyVariable Y (render value (tokensOf replaced) pieces) (activationVar value name) =
      .ok (render value (tokensOf (name :: replaced)) pieces) := by
  have hfirst := replaceToken_render (fun h => hname (mem_tokensOf.mp h)) hbrackets
  have hnew : Token.var name ∉ .brackets name :: tokensOf replaced := by
    simp only [List.mem_cons, reduceCtorEq, false_or]
    exact fun h => hname (mem_tokensOf.mp h)
  have hsecond := replaceToken_render hnew hvar
  have hdone : render value (tokensOf (name :: replaced)) pieces =
      render value (.var name :: .brackets name :: tokensOf replaced) pieces := by
    apply render_congr
    intro token _
    rw [tokensOf, List.flatMap_cons, ← tokensOf]
    simp only [List.cons_append, List.nil_append, List.mem_cons]
    tauto
  rw [hdone, ← hsecond, ← hfirst]
  simp only [applyVariable, activationVar, hstr, replaceToken, Token.toText, Token.name]

theorem foldlM_applyVariable_render {Y : YamlLibrary} (hstr : ∀ s, Y.str (.str s) = s)
    {names : List Text} {template : Text} (h : ReplacesOnlyTokens value names template pieces) :
    ∀ rest replaced : List Text, (∀ name ∈ replaced, name ∈ names) →
      (∀ name ∈ rest, name ∈ names ∧ name ∉ replaced) → rest.Nodup →
      (rest.map (activationVar value)).foldlM (applyVariable Y)
          (render value (tokensOf replaced) pieces) =
        .ok (render value (tokensOf (rest.reverse ++ replaced)) pieces) := by
  intro rest
  induction rest with
  | nil =>
    intro replaced _ _ _
    rfl
  | cons name rest ih =>
    intro replaced hreplaced hrest hnodup
    obtain ⟨hname, hnew⟩ := hrest name List.mem_cons_self
    obtain ⟨hnotin, hnodup⟩ := List.nodup_cons.mp hnodup
    obtain ⟨hbrackets, hvar⟩ := h.2 replaced name hreplaced hname hnew
    rw [List.map_cons, List.foldlM_cons, applyVariable_render hstr hnew hbrackets hvar]
    change List.foldlM _ _ _ = _
    rw [ih (name :: replaced) (List.forall_mem_cons.mpr ⟨hname, hreplaced⟩) _ hnodup,
      List.reverse_cons, List.append_assoc]
    · rfl
    · intro other hother
      obtain ⟨hmem, hother'⟩ := hrest other (List.mem_cons_of_mem _ hother)
      refine ⟨hmem, ?_⟩
      rw [List.mem_cons, not_or]
      exact ⟨fun heq => hnotin (heq ▸ hother), hother'⟩

theorem render_var {names : List Text} {k : Text} (hk : k ∈ names)
    (h : ReplacesOnlyTokens value names ("var:".toList ++ k) pieces) :
    render value (tokensOf names) pieces = value k := by
  obtain ⟨htemplate, hisolated⟩ := h
  have hvar := (hisolated [] k (by simp) hk (by simp)).2
  have hnone : Piece.placeholder (.brackets k) ∉ pieces := by
    intro hmem
    obtain ⟨before, after, rfl⟩ := List.append_of_mem hmem
    rw [render_placeholder, if_neg List.not_mem_nil] at htemplate
    exact brackets_not_infix_var _ _ htemplate
  have hbrackets : render value [.brackets k] pieces = render value [] pieces := by
    apply render_congr
    intro token htoken
    rw [List.mem_singleton]
    exact ⟨fun heq => absurd (heq ▸ htoken) hnone, fun h => absurd h List.not_mem_nil⟩
  obtain ⟨before, after, rfl, -⟩ := hvar [] [] (by
    change render value [.brackets k] pieces = _
    rw [hbrackets, htemplate, List.nil_append, List.append_nil]
    rfl)
  rw [render_placeholder, if_neg List.not_mem_nil] at htemplate
  have hlength := congrArg List.length htemplate
  simp only [List.length_append, Token.toText] at hlength
  have hbefore : render value [] before = [] := List.eq_nil_of_length_eq_zero (by omega)
  have hafter : render value [] after = [] := List.eq_nil_of_length_eq_zero (by omega)
  rw [render_placeholder, if_pos (mem_tokensOf.mpr hk), render_eq_nil hbefore,
    render_eq_nil hafter, List.nil_append, List.append_nil]
  rfl

end

end GcpMonitor.Metrics
