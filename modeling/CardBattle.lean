import CardBattle.Binary64.Arithmetic
import CardBattle.Binary64.Basic
import CardBattle.Binary64.Encoding
import CardBattle.Binary64.Whole
import CardBattle.Card.Basic
import CardBattle.Card.Chains
import CardBattle.Card.Id
import CardBattle.Card.Pool
import CardBattle.Combatant
import CardBattle.Effect.Basic
import CardBattle.Effect.Condition
import CardBattle.Effect.Quantity
import CardBattle.Event
import CardBattle.Fault
import CardBattle.Game.Action
import CardBattle.Game.Basic
import CardBattle.Game.Battle
import CardBattle.Game.DeckBuilding
import CardBattle.Game.Outlook
import CardBattle.Game.Piles
import CardBattle.Game.Run
import CardBattle.Game.Turn
import CardBattle.Json.Basic
import CardBattle.Json.Cards
import CardBattle.Json.Combatants
import CardBattle.Json.Effects
import CardBattle.Json.Events
import CardBattle.Json.Reader
import CardBattle.Named
import CardBattle.OrderedMap
import CardBattle.Random.ChaCha8
import CardBattle.Random.Dice
import CardBattle.Relic
import CardBattle.Resolution.Basic
import CardBattle.Resolution.Damage
import CardBattle.Resolution.Effects
import CardBattle.Resolution.Reading
import CardBattle.Resolution.Relics
import CardBattle.Resolution.Scope
import CardBattle.Rules
import CardBattle.Side
import CardBattle.Status
import CardBattle.Text.Blank
import CardBattle.Proofs.Chains.Links
import CardBattle.Proofs.Chains.Arrangement
import CardBattle.Proofs.Cards.Pool
import CardBattle.Proofs.Cards.Holdings
import CardBattle.Proofs.Cards.Rotation
import CardBattle.Proofs.Game.Table
import CardBattle.Proofs.Resolution.Changes
import CardBattle.Proofs.Game.Turns
import CardBattle.Proofs.Game.Requests
import CardBattle.Proofs.Random.Shuffle
import CardBattle.Proofs.Game.Cards
import CardBattle.Proofs.Game.HealthLedger
import CardBattle.Proofs.Game.Standing
import CardBattle.Proofs.Game.Plays
import CardBattle.Proofs.Resolution.Tally
import CardBattle.Proofs.Game.TurnBooks
import CardBattle.Proofs.Game.TurnTallies
import CardBattle.Proofs.Game.Stock
import CardBattle.Proofs.Game.Fitness
import CardBattle.Proofs.Game.LifeCycle
import CardBattle.Proofs.Game.PlayOrder
import CardBattle.Proofs.Binary64.Whole
import CardBattle.Proofs.Resolution.Progress
import CardBattle.Proofs.Game.Progress
import CardBattle.Proofs.Game.Rotation
import CardBattle.Proofs.Game.Succession
import CardBattle.Proofs.Game.Counters
import CardBattle.Proofs.Resolution.Symmetry
import CardBattle.Proofs.Cards.Renumbering
import CardBattle.Proofs.Game.BattleLog
import CardBattle.Proofs.Resolution.Disguise
import CardBattle.Proofs.Game.Disguise
import CardBattle.Proofs.Game.Chance
import CardBattle.Proofs.Game.Replay
import CardBattle.Proofs.Game.Budget
import CardBattle.Proofs.Chains.Uniqueness
import CardBattle.Proofs.Chains.Acceptance
import CardBattle.Proofs.Chains.Reachability
import CardBattle.Proofs.Cards.Settling
import CardBattle.Proofs.Game.Linking
import CardBattle.Proofs.Game.LinkOrder
import CardBattle.Proofs.Game.BetweenBattles
import CardBattle.Proofs.Game.DeckBuilding
import CardBattle.Proofs.Resolution.Footprint
import CardBattle.Proofs.Binary64.Arithmetic
import CardBattle.Proofs.Resolution.Stacks
import CardBattle.Proofs.Resolution.Blows
import CardBattle.Proofs.Resolution.Crits
import CardBattle.Proofs.Resolution.Volleys
import CardBattle.Proofs.Resolution.Unrolling
import CardBattle.Proofs.Game.Removal
import CardBattle.Proofs.Game.Opponents
import CardBattle.Proofs.Resolution.Shocks
import CardBattle.Proofs.Resolution.Reactions
import CardBattle.Proofs.Binary64.Floor
import CardBattle.Proofs.Resolution.Overwriting
import CardBattle.Proofs.Json.Shapes
import CardBattle.Proofs.Json.Records
import CardBattle.Proofs.Json.RoundTrip
