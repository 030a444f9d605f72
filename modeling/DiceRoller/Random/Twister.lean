/-!
The Mersenne Twister MT19937: a table of 624 words, tempered one by one and
renewed as a whole when all of them are used. Seeding stirs the words of a key
into a fixed table.
-/

namespace DiceRoller.Twister

abbrev Table := Vector UInt32 624

/-- A table and the number of its words that are used up. -/
structure Generator where
  table : Table
  used : Nat

def temper (word : UInt32) : UInt32 :=
  let a := word ^^^ (word >>> 11)
  let b := a ^^^ ((a <<< 7) &&& 0x9D2C5680)
  let c := b ^^^ ((b <<< 15) &&& 0xEFC60000)
  c ^^^ (c >>> 18)

/-- The renewed word at a place, from the words at three places of the table. -/
def Table.renewedAt (table : Table) (place : Fin 624) : UInt32 :=
  let joint := (table.get place &&& 0x80000000) ||| (table.get (place + 1) &&& 0x7FFFFFFF)
  table.get (place + 397) ^^^ (joint >>> 1) ^^^ (if joint &&& 1 = 0 then 0 else 0x9908B0DF)

-- Later places see the words already renewed at earlier ones.
def Table.renew (table : Table) : Table :=
  Fin.foldl 624 (fun now place => now.set place.val (now.renewedAt place) place.isLt) table

def Generator.next (generator : Generator) : UInt32 × Generator :=
  if fresh : generator.used < 624 then
    (temper generator.table[generator.used], { generator with used := generator.used + 1 })
  else
    let table := generator.table.renew
    (temper table[0], ⟨table, 1⟩)

/-- The word before, mixed with itself. -/
def folded (word : UInt32) : UInt32 :=
  word ^^^ (word >>> 30)

/-- The table that a single word grows into. -/
def grown (seed : UInt32) : Table :=
  Fin.foldl 623
    (fun table place =>
      let before := table.get place.castSucc
      table.set (place.val + 1) (1812433253 * folded before + UInt32.ofNat (place.val + 1)) (by omega))
    ((Vector.replicate 624 0).set 0 seed (by omega))

/-- One stir: the word after `place` is remade from itself and the word before
it; the last word is carried to the front. -/
def stir (remake : UInt32 → UInt32 → UInt32) (place : Fin 623) (table : Table) : Table :=
  let made := remake (table.get place.succ) (table.get place.castSucc)
  let table := table.set (place.val + 1) made (by omega)
  if place.val = 622 then table.set 0 made (by omega) else table

/-- `count` stirs from the stir number `start` on, the places going round. -/
def stirs (remake : Nat → UInt32 → UInt32 → UInt32) : (count start : Nat) → Table → Table
  | 0, _, table => table
  | count + 1, start, table =>
      stirs remake count (start + 1)
        (stir (remake start) ⟨start % 623, Nat.mod_lt _ (by omega)⟩ table)

def keyed (key : Array UInt32) (start : Nat) (word before : UInt32) : UInt32 :=
  let place := start % key.size
  (word ^^^ (folded before * 1664525)) + key.getD place 0 + UInt32.ofNat place

def unkeyed (start : Nat) (word before : UInt32) : UInt32 :=
  (word ^^^ (folded before * 1566083941)) - UInt32.ofNat (start % 623 + 1)

def Generator.ofKey (key : Array UInt32) : Generator :=
  let count := max 624 key.size
  let table := stirs (keyed key) count 0 (grown 19650218)
  let table := stirs unkeyed 623 count table
  ⟨table.set 0 0x80000000 (by omega), 624⟩

end DiceRoller.Twister
