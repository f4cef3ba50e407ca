import TypeLint.Rule.Ban
import TypeLint.Rule.Mention
import TypeLint.Rule.Reporter
import TypeLint.Tree.Label
import TypeLint.Tree.Walk

/-!
# The rule `ban-types`

Reports every mention of a type whose name is banned.  Arrays, unions and qualified names have no name of
their own and are never reported; what stands inside them is reported by the rules of `Mention.all`.

* `info` — what the rule says about itself;
* `findings` — the banned names among mentions;
* `visit` — the findings at a node of an entry kind;
* `inspect` — the findings in a tree.
-/

namespace TypeLint.Rule.BanTypes

open Report TypeLint.Tree

/-- The name of the rule. -/
def id : Text := text "ban-types"

/-- The name of its message. -/
def bannedType : Text := text "bannedType"

/-- The template of its message. -/
def template : Template :=
  [.literal (text "Don't use "), .field (text "type"), .literal (text " as a type."),
    .field (text "additionalMessage")]

/-- Options are lists of one or two texts. -/
def schema : Schema :=
  .mk (some .array) none none
    (.each (.mk (some .array) (some 1) (some 2)
      (.positional [.mk (some .string) none none .any, .mk (some .string) none none .any])))

/-- What the rule says about itself. -/
def info : Info where
  id := id
  description := text "Ban specific types from being used"
  category := text "Best Practices"
  recommended := false
  url := none
  messages := [(bannedType, template)]
  schema := schema
  entryKinds := [
    .variableDeclarator, .propertyDefinition, .functionDeclaration, .functionExpression,
    .arrowFunctionExpression, .classDeclaration, .classExpression, .expressionStatement]

/-- A banned name where it is mentioned. -/
structure Finding where
  mention : Mention
  name : Text
  ban : Ban

namespace Finding

/-- The parts of the message. -/
def data (f : Finding) : List (Text × Json) :=
  [(text "type", .str f.name), (text "additionalMessage", .str f.ban.message)]

/-- A note on the place. -/
def notes (f : Finding) : List Text :=
  [text "found in " ++ f.mention.position.describe ++ text " position"]

/-- The diagnostic of a finding. -/
def diagnostic? (f : Finding) (r : Reporter) : Option Diagnostic :=
  (r.draft f.mention.node.loc bannedType f.data f.notes).toOption

end Finding

/-- The finding at a mention, if its name is banned. -/
def finding? (bans : List Ban) (m : Mention) : Option Finding :=
  match m.node.name? with
  | none => none
  | some name => (firstMatch bans name).map (⟨m, name, ·⟩)

/-- The banned names among mentions and what they lead to. -/
def findings (bans : List Ban) (ms : List Mention) : List Finding :=
  (ms.flatMap Mention.all).filterMap (finding? bans)

/-- The findings at a node; none if nodes of its kind are not looked at. -/
def visit? (bans : List Ban) (n : Node) : Option (List Finding) := n.entryTypes?.map (findings bans)

/-- What is said about a node that is not looked at. -/
def unhandled (kind : NodeKind) : Text := id ++ text ": no handler for node kind " ++ text kind.label

/-- The kinds that a list of bans looks at; without bans there is nothing to look for. -/
def handledKinds (bans : List Ban) : List NodeKind := if bans.isEmpty then [] else info.entryKinds

/-- The findings in a tree, in the order in which its nodes are visited. -/
def inspect (bans : List Ban) (root : Node) : List Finding :=
  (root.visited (handledKinds bans)).flatMap fun n => (visit? bans n).getD []

end TypeLint.Rule.BanTypes
