/-
Rosters: the bounded lists of fingerprints that are kept in annotations.

* `Roster.parse`, `Roster.join`: reading and writing the text of a roster, which has commas
  between the fingerprints.
* `Roster.append`: one more fingerprint; only the newest ones are kept.
* `Roster.common`: the fingerprints that two rosters share.
-/
import Driftwatch.Text.Blank
import Driftwatch.Text.Pieces

namespace Driftwatch.Roster

/-- The fingerprints in a text: what stands between the commas, without white space around it;
blank pieces are dropped. -/
def parse (s : String) : List String :=
  ((Text.split ',' s).map Text.trim).filter (· ≠ "")

/-- The text of a roster. -/
def join (roster : List String) : String :=
  Text.join ',' roster

/-- The newest `limit` fingerprints, which are the last ones. -/
def newest (limit : Int) (roster : List String) : List String :=
  roster.drop ((roster.length : Int) - limit).toNat

/-- A roster with one more fingerprint.  One that is already there changes nothing; otherwise
the newest `limit` fingerprints are kept. -/
def append (limit : Int) (roster : List String) (fingerprint : String) : List String :=
  if fingerprint ∈ roster then roster else newest limit (roster ++ [fingerprint])

/-- The fingerprints of the second roster that stand in the first as well. -/
def common (first second : List String) : List String :=
  second.filter (· ∈ first)

/-- A listed fingerprint changes nothing. -/
theorem append_of_mem {limit : Int} {roster : List String} {fingerprint : String}
    (h : fingerprint ∈ roster) : append limit roster fingerprint = roster :=
  if_pos h

/-- A fingerprint is in what two rosters share exactly if it is in both. -/
theorem mem_common {first second : List String} {fingerprint : String} :
    fingerprint ∈ common first second ↔ fingerprint ∈ second ∧ fingerprint ∈ first := by
  simp [common]

end Driftwatch.Roster
