/-
Module: CardBattle.Json.Events
Purpose: The JSON form of events, and of what is reported of plays and battles.
Main exports:
  BattleEvent.toJson, BattleEvent.ofJson?, BattleResult.toJson, BattleResult.ofJson?,
  PlayReport.toJson
-/
import CardBattle.Game.Turn
import CardBattle.Json.Cards

namespace CardBattle

namespace BattleEvent

/-- An event is a name, or a form with fields. -/
def toJson : BattleEvent → Json
  | battleStarted => .string "BattleStarted"
  | turnStarted side turn =>
      .form "TurnStarted" (.object [("side", .ofName side), ("turn", .nat turn)])
  | turnEnded side => .form "TurnEnded" (.object [("side", .ofName side)])
  | cardPlayed side card =>
      .form "CardPlayed" (.object [("side", .ofName side), ("card", card.toJson)])
  | cardDiscarded side card =>
      .form "CardDiscarded" (.object [("side", .ofName side), ("card", card.toJson)])
  | cardTrashed side card =>
      .form "CardTrashed" (.object [("side", .ofName side), ("card", card.toJson)])
  | damage source target amount =>
      .form "Damage" (.object [("source", .ofName source), ("target", .ofName target),
        ("amount", .int amount)])
  | heal side amount => .form "Heal" (.object [("side", .ofName side), ("amount", .int amount)])
  | miss target => .form "Miss" (.object [("target", .ofName target)])
  | stunned side => .form "Stunned" (.object [("side", .ofName side)])
  | shuffled side => .form "Shuffled" (.object [("side", .ofName side)])
  | battleEnded winner => .form "BattleEnded" (.object [("winner", .ofName winner)])
  | undo => .string "Undo"

/-- A form with one side as its field. -/
def sideOfJson? (name : String) (build : Side → BattleEvent) (contents : Json) :
    Option BattleEvent := do
  let members ← contents.members?
  let side ← Json.memberOf members name Json.named?
  pure (build side)

/-- A form with a side and something else as its fields. -/
def pairOfJson? {α : Type} (name : String) (decode : Json → Option α)
    (build : Side → α → BattleEvent) (contents : Json) : Option BattleEvent := do
  let members ← contents.members?
  let side ← Json.memberOf members "side" Json.named?
  let value ← Json.memberOf members name decode
  pure (build side value)

/-- The form of damage. -/
def damageOfJson? (contents : Json) : Option BattleEvent := do
  let members ← contents.members?
  let source ← Json.memberOf members "source" Json.named?
  let target ← Json.memberOf members "target" Json.named?
  let amount ← Json.memberOf members "amount" Json.word?
  pure (damage source target amount)

/-- Read an event. -/
def ofJson? (value : Json) : Option BattleEvent :=
  match value.variant? with
  | some ("BattleStarted", .null) => some battleStarted
  | some ("TurnStarted", contents) =>
      pairOfJson? "turn" (Json.bits? 32) turnStarted contents
  | some ("TurnEnded", contents) => sideOfJson? "side" turnEnded contents
  | some ("CardPlayed", contents) => pairOfJson? "card" CardId.ofJson? cardPlayed contents
  | some ("CardDiscarded", contents) => pairOfJson? "card" CardId.ofJson? cardDiscarded contents
  | some ("CardTrashed", contents) => pairOfJson? "card" CardId.ofJson? cardTrashed contents
  | some ("Damage", contents) => damageOfJson? contents
  | some ("Heal", contents) => pairOfJson? "amount" Json.word? heal contents
  | some ("Miss", contents) => sideOfJson? "target" miss contents
  | some ("Stunned", contents) => sideOfJson? "side" stunned contents
  | some ("Shuffled", contents) => sideOfJson? "side" shuffled contents
  | some ("BattleEnded", contents) => sideOfJson? "winner" battleEnded contents
  | some ("Undo", .null) => some undo
  | _ => none

/-- Events in order. -/
def listToJson (events : List BattleEvent) : Json := .ofList toJson events

end BattleEvent

/-- The result of a battle is a record. -/
def BattleResult.toJson (result : BattleResult) : Json :=
  .object [("winner", .ofName result.winner), ("wins", .nat result.wins),
    ("losses", .nat result.losses), ("events", BattleEvent.listToJson result.events)]

/-- Read the result of a battle. -/
def BattleResult.ofJson? (record : Json) : Option BattleResult := do
  guard (record.isRecord 4 4)
  let winner ← record.required 0 "winner" Json.named?
  let wins ← record.required 1 "wins" (Json.bits? 32)
  let losses ← record.required 2 "losses" (Json.bits? 32)
  let events ← record.required 3 "events" (Json.listOf? BattleEvent.ofJson?)
  pure ⟨winner, wins, losses, events⟩

/-- The report of a play is a record. -/
def PlayReport.toJson (report : PlayReport) : Json :=
  .object [("outcome", .ofName report.outcome), ("events", BattleEvent.listToJson report.events)]

end CardBattle
