/-
What the console says before it lists the issues: a particle, an oath and a
word of resignation, each picked from a fixed list.

Picks come from outside, one number for each choice. A pick counts around the
list as often as needed, from either end; when no picks are left, the first
item is taken.
-/

namespace PCFTyping.Outburst

/-- Numbers that decide the choices to come. -/
abbrev Picks := List Int

def particles : List String := ["Oh, ", "Well, ", "Aw, ", "", ""]

def oaths : List String :=
  ["Ack", "Blargh", "Confound it", "Crud", "Curses", "Drat", "Fiddlesticks", "Good Grief",
    "Great Scott", "Heavens", "Nuts", "Rats", "Snap", "Woe is me"]

def resignations : List String :=
  ["That does not type.", "I cannot make these types agree.", "The judgement is not derivable.",
    "I need to ask for help."]

/-- Takes the next pick and the item it points at. -/
def choose (items : List String) : StateM Picks String := fun picks =>
  (items.getD (picks.headD 0 % items.length).toNat "", picks.tail)

/-- Three choices make an outburst. -/
def compose : StateM Picks String := do
  let particle ← choose particles
  let oath ← choose oaths
  let resignation ← choose resignations
  return particle ++ oath ++ "! " ++ resignation

end PCFTyping.Outburst
