/-
The names that the program reads and writes in the objects of the cluster.
-/

namespace Driftwatch.Vocabulary

/-- The annotation of a parent that lists the actors who updated its status. -/
def controllers : String := "kausality.io/controllers"

/-- The annotation of a child that lists the actors who changed its specification. -/
def updaters : String := "kausality.io/updaters"

/-- The annotation of a parent that holds its recorded lifecycle phase. -/
def phase : String := "kausality.io/phase"

/-- The recorded phase of a parent that has been initialized. -/
def initialized : String := "initialized"

/-- The condition types whose own stamp stands in for the one of the status, in order of
preference. -/
def stampTypes : List String := ["Synced", "Ready"]

end Driftwatch.Vocabulary
