/-
This file joins what stays the same during a duel: its cards and its options.
-/

import CardDuel.Card.Template
import CardDuel.Config.Basic

namespace CardDuel

/-- This holds what stays the same during a duel. -/
structure Rules where
  catalog : Catalog
  config : DuelConfig

end CardDuel
