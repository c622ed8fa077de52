import TypedTables.Pattern.Matcher

/-!
# Caches of matchers

A cache keeps the matcher of every pattern asked for so far.  What it gives for a pattern is what
making the pattern ready gives; malformed patterns are not kept.
-/

namespace TypedTables.Pattern

/-- Matchers by the text of their pattern. -/
structure Cache where
  matchers : List (String × Matcher) := []
  /-- Every matcher is that of its pattern. -/
  valid : ∀ entry ∈ matchers, Matcher.ofText entry.1 = .ok entry.2 := by simp

namespace Cache

def size (cache : Cache) : Nat :=
  cache.matchers.length

def isEmpty (cache : Cache) : Bool :=
  cache.matchers.isEmpty

/-- The cache with the matcher of a pattern added. -/
def keep (cache : Cache) (pattern : String) (matcher : Matcher)
    (made : Matcher.ofText pattern = .ok matcher) : Cache where
  matchers := (pattern, matcher) :: cache.matchers
  valid := by
    intro entry member
    rcases List.mem_cons.1 member with rfl | old
    · exact made
    · exact cache.valid entry old

/-- The matcher of a pattern, from the cache where it is kept there. -/
def get (cache : Cache) (pattern : String) : Outcome Matcher × Cache :=
  match cache.matchers.lookup pattern with
  | some matcher => (.ok matcher, cache)
  | none =>
    match made : Matcher.ofText pattern with
    | .ok matcher => (.ok matcher, cache.keep pattern matcher made)
    | .error failure => (.error failure, cache)

def isMatch (cache : Cache) (pattern text : String) : Outcome Bool × Cache :=
  let (found, next) := cache.get pattern
  (found.map (·.isMatch text), next)

/-- Takes a value from a text by a value pattern. -/
def extract (cache : Cache) (pattern : Option String) (text : String) : Outcome String × Cache :=
  match pattern with
  | none => (.ok text, cache)
  | some written =>
    if written.isEmpty then (.ok text, cache)
    else
      let (found, next) := cache.get written
      (found.map (·.groupText resultGroup text), next)

end Cache

end TypedTables.Pattern
