import Mathlib.Computability.Language
import Mathlib.Order.CompletePartialOrder
import TypeLint.Source.Token

/-!
# The grammar

The grammar of sources as rules for phrases, each with a right-hand side in which parts can be optional and repeated,
and the words of terminals that can be derived by them.

* `Nonterminal`, `Phrase` — the names of the phrases, and right-hand sides;
* `Nonterminal.phrase` — the rules;
* `Derives` — a word is derived from a right-hand side;
* `Phrase.language` — the words of a right-hand side if the words of each nonterminal are given;
* `Derives.mem_language` — the derived words are the least that satisfy the rules;
* `Nonterminal.phrase_le` — they do satisfy the rules.
-/

namespace TypeLint.Source

open scoped Computability

/-- The phrases that have a rule. -/
inductive Nonterminal where
  | program | stmts | stmt | varDecl | varKind | declarator | declaredType
  | functionDecl | block | classDecl | heritage | classBody | members | member | methodDef | propertyDef
  | returnStmt | exprStmt | params | param
  | expr | assign | arrowFn | arrowBody | sum | term | operand | primary | args
  | newExpr | newCallee | functionExpr | classExpr
  | type | unionType | arrayType | fnType | typeRef | literalType
  | typeArgs | typeParams | typeParam | typeConstraint | typeDefault
deriving DecidableEq

/-- A right-hand side. -/
inductive Phrase where
  | terminal (k : Terminal)
  | rule (n : Nonterminal)
  | empty
  | seq (a b : Phrase)
  | alt (a b : Phrase)
  | opt (a : Phrase)
  | star (a : Phrase)
  | plus (a : Phrase)

namespace Phrase

/-- One after the other. -/
def all : List Phrase → Phrase
  | [] => .empty
  | [a] => a
  | a :: b :: rest => .seq a (all (b :: rest))

/-- One of several, of which there is at least one. -/
def any (a : Phrase) : List Phrase → Phrase
  | [] => a
  | b :: rest => .alt a (any b rest)

/-- One or more, with a comma between each two. -/
def listed (n : Nonterminal) : Phrase := all [.rule n, .star (all [.terminal .comma, .rule n])]

/-- Any number, with terminators between them, and possibly before and behind them. -/
def lines (n : Nonterminal) : Phrase :=
  all [.star (.terminal .terminator), .star (all [.rule n, .plus (.terminal .terminator)]), .opt (.rule n)]

/-- A name with more names behind points. -/
def dotted : Phrase := all [.terminal .name, .star (all [.terminal .dot, .terminal .name])]

/-- Parameters between parentheses, and type parameters before them. -/
def parameters : Phrase :=
  all [.opt (.rule .typeParams), .terminal .parenOpen, .opt (.rule .params), .terminal .parenClose]

/-- Arguments between parentheses, and type arguments before them. -/
def arguments : Phrase :=
  all [.opt (.rule .typeArgs), .terminal .parenOpen, .opt (.rule .args), .terminal .parenClose]

/-- A value behind an equals sign. -/
def initial : Phrase := all [.terminal .equals, .rule .expr]

end Phrase

open Phrase in
/-- The rules. -/
def Nonterminal.phrase : Nonterminal → Phrase
  | .program => .rule .stmts
  | .stmts => lines .stmt
  | .stmt => any (.rule .varDecl) [.rule .functionDecl, .rule .classDecl, .rule .returnStmt, .rule .exprStmt]
  | .varDecl => all [.rule .varKind, listed .declarator]
  | .varKind => .terminal .binderWord
  | .declarator => all [.terminal .name, .opt (.rule .declaredType), .opt initial]
  | .declaredType => all [.terminal .colon, .rule .type]
  | .functionDecl =>
    all [.terminal .functionWord, .terminal .name, parameters, .opt (.rule .declaredType), .rule .block]
  | .block => all [.terminal .braceOpen, .rule .stmts, .terminal .braceClose]
  | .classDecl =>
    all [.terminal .classWord, .terminal .name, .opt (.rule .typeParams), .opt (.rule .heritage), .rule .classBody]
  | .heritage => all [.terminal .extendsWord, .terminal .name, .opt (.rule .typeArgs)]
  | .classBody => all [.terminal .braceOpen, .rule .members, .terminal .braceClose]
  | .members => lines .member
  | .member => any (.rule .methodDef) [.rule .propertyDef]
  | .methodDef => all [.terminal .name, parameters, .opt (.rule .declaredType), .rule .block]
  | .propertyDef =>
    all [.terminal .name, .opt (.terminal .question), .opt (.rule .declaredType), .opt initial]
  | .returnStmt => all [.terminal .returnWord, .opt (.rule .expr)]
  | .exprStmt => .rule .expr
  | .params => listed .param
  | .param => all [.terminal .name, .opt (.terminal .question), .opt (.rule .declaredType), .opt initial]
  | .expr => .rule .assign
  | .assign => any (.rule .sum) [all [.rule .operand, .terminal .equals, .rule .assign], .rule .arrowFn]
  | .arrowFn => all [parameters, .opt (.rule .declaredType), .terminal .arrow, .rule .arrowBody]
  | .arrowBody => any (.rule .block) [.rule .assign]
  | .sum => any (.rule .term) [all [.rule .sum, .terminal .addOp, .rule .term]]
  | .term => any (.rule .operand) [all [.rule .term, .terminal .mulOp, .rule .operand]]
  | .operand =>
    any (.rule .primary) [all [.rule .operand, .terminal .dot, .terminal .name], all [.rule .operand, arguments]]
  | .primary =>
    any (.terminal .name) [.terminal .number, .terminal .string, .rule .newExpr, .rule .functionExpr, .rule .classExpr]
  | .args => listed .expr
  | .newExpr => all [.terminal .newWord, .rule .newCallee, arguments]
  | .newCallee => dotted
  | .functionExpr => all [.terminal .functionWord, parameters, .opt (.rule .declaredType), .rule .block]
  | .classExpr => all [.terminal .classWord, .opt (.rule .typeParams), .opt (.rule .heritage), .rule .classBody]
  | .type => any (.rule .fnType) [.rule .unionType]
  | .unionType => any (.rule .arrayType) [all [.rule .unionType, .terminal .bar, .rule .arrayType]]
  | .arrayType =>
    any (.rule .typeRef) [.rule .literalType, all [.rule .arrayType, .terminal .bracketOpen, .terminal .bracketClose]]
  | .fnType => all [parameters, .terminal .arrow, .rule .type]
  | .typeRef => all [dotted, .opt (.rule .typeArgs)]
  | .literalType => any (.terminal .string) [.terminal .number]
  | .typeArgs => all [.terminal .angleOpen, listed .type, .terminal .angleClose]
  | .typeParams => all [.terminal .angleOpen, listed .typeParam, .terminal .angleClose]
  | .typeParam => all [.terminal .name, .opt (.rule .typeConstraint), .opt (.rule .typeDefault)]
  | .typeConstraint => all [.terminal .extendsWord, .rule .type]
  | .typeDefault => all [.terminal .equals, .rule .type]

/-- A word of terminals is derived from a right-hand side. -/
inductive Derives : Phrase → List Terminal → Prop
  | terminal (k : Terminal) : Derives (.terminal k) [k]
  | rule {n : Nonterminal} {w : List Terminal} : Derives n.phrase w → Derives (.rule n) w
  | empty : Derives .empty []
  | seq {a b : Phrase} {u v : List Terminal} : Derives a u → Derives b v → Derives (.seq a b) (u ++ v)
  | left {a b : Phrase} {w : List Terminal} : Derives a w → Derives (.alt a b) w
  | right {a b : Phrase} {w : List Terminal} : Derives b w → Derives (.alt a b) w
  | absent {a : Phrase} : Derives (.opt a) []
  | present {a : Phrase} {w : List Terminal} : Derives a w → Derives (.opt a) w
  | stop {a : Phrase} : Derives (.star a) []
  | more {a : Phrase} {u v : List Terminal} : Derives a u → Derives (.star a) v → Derives (.star a) (u ++ v)
  | plus {a : Phrase} {u v : List Terminal} : Derives a u → Derives (.star a) v → Derives (.plus a) (u ++ v)

/-! ## languages -/

/-- The word of one terminal. -/
def one (k : Terminal) : Language Terminal := {[k]}

/-- The words of a right-hand side if those of each nonterminal are given. -/
def Phrase.language (l : Nonterminal → Language Terminal) : Phrase → Language Terminal
  | .terminal k => one k
  | .rule n => l n
  | .empty => 1
  | .seq a b => a.language l * b.language l
  | .alt a b => a.language l + b.language l
  | .opt a => 1 + a.language l
  | .star a => (a.language l)∗
  | .plus a => a.language l * (a.language l)∗

/-- The words that are derived from a nonterminal. -/
def Nonterminal.language (n : Nonterminal) : Language Terminal := {w | Derives (.rule n) w}

/-- Languages that satisfy the rules have all derived words. -/
theorem Derives.mem_language {l : Nonterminal → Language Terminal} (hl : ∀ n, n.phrase.language l ≤ l n)
    {a : Phrase} {w : List Terminal} (h : Derives a w) : w ∈ a.language l := by
  induction h with
  | terminal k => exact Set.mem_singleton _
  | rule _ ih => exact hl _ ih
  | empty => exact Language.nil_mem_one
  | seq _ _ ha hb => exact Language.append_mem_mul ha hb
  | left _ ih => exact .inl ih
  | right _ ih => exact .inr ih
  | absent => exact .inl Language.nil_mem_one
  | present _ ih => exact .inr ih
  | stop => exact Language.nil_mem_kstar _
  | @more a u v _ _ ha hs =>
    have hle : a.language l * (a.language l)∗ ≤ (a.language l)∗ := mul_kstar_le_kstar
    exact hle (Language.append_mem_mul ha hs)
  | plus _ _ ha hs => exact Language.append_mem_mul ha hs

theorem Derives.star_flatten {a : Phrase} {ws : List (List Terminal)} (h : ∀ w ∈ ws, Derives a w) :
    Derives (.star a) ws.flatten := by
  induction ws with
  | nil => exact .stop
  | cons w ws ih => exact .more (h w (by simp)) (ih fun v hv => h v (by simp [hv]))

theorem Derives.of_mem_language {a : Phrase} {w : List Terminal} (h : w ∈ a.language Nonterminal.language) :
    Derives a w := by
  induction a generalizing w with
  | terminal k =>
    obtain rfl : w = [k] := h
    exact .terminal k
  | rule n => exact h
  | empty =>
    obtain rfl : w = [] := h
    exact .empty
  | seq a b iha ihb =>
    obtain ⟨u, hu, v, hv, rfl⟩ := h
    exact .seq (iha hu) (ihb hv)
  | alt a b iha ihb => exact h.elim (fun h => .left (iha h)) fun h => .right (ihb h)
  | opt a ih =>
    rcases h with rfl | h
    · exact .absent
    · exact .present (ih h)
  | star a ih =>
    obtain ⟨ws, rfl, hws⟩ := h
    exact Derives.star_flatten fun v hv => ih (hws v hv)
  | plus a ih =>
    obtain ⟨u, hu, _, ⟨ws, rfl, hws⟩, rfl⟩ := h
    exact .plus (ih hu) (Derives.star_flatten fun v hv => ih (hws v hv))

/-- The languages of the nonterminals satisfy the rules. -/
theorem Nonterminal.phrase_le (n : Nonterminal) : n.phrase.language Nonterminal.language ≤ n.language :=
  fun _ h => .rule (.of_mem_language h)

end TypeLint.Source
