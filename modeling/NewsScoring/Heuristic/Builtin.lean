import NewsScoring.Heuristic.Rules

/-!
# Rules that come with the library

The rules of six features: acquisitions, product launches, fundraising rounds, large sums of money,
quarterly earnings, and articles that are lists.  All patterns are meant for lower-case text.
-/

namespace NewsScoring.HeuristicRules

/-- The rules for acquisitions of companies. -/
def acquisitions : HeuristicRules Float where
  title := [
    ⟨"acquires", 1.0⟩, ⟨"is acquiring", 1.0⟩, ⟨"buys", 0.9⟩, ⟨"is buying", 0.8⟩,
    ⟨"buying .+ for", 1.0⟩, ⟨"to acquire .+illion", 1.0⟩]
  titleBlacklist := [
    "for buying", "home-buying", "-buying", "buying for", "buying experience", "worth buying",
    "buying\\?", "buying opportunity", "biggest buys", "who buys", "is buying what's",
    " buying of ", "buys.*apartment", "it buys ", " bond buys", "acquires.*for 20[0-9]\x7b2\x7d"]
  body := [
    ⟨"acquires", 0.8⟩, ⟨"is acquiring", 0.8⟩]

/-- The words of news about armed conflict, which launches things of another kind. -/
def militaryWords : List String := [
  "criminal", "afghanistan", "attack", "attacks", "crimea", "gaza", "injured", "iran", "iraq",
  "isil", "isis", "killed", "lebanon", "militant", "militants", "military", "mortar", "mortars",
  "nasa", "north korea", "pakistan", "paramilitary", "rocket", "wounded"]

/-- The rules for product launches. -/
def launches : HeuristicRules Float where
  title := [
    ⟨"launches", 1.0⟩, ⟨" is launching", 1.0⟩, ⟨"launched", 0.9⟩, ⟨"to launch", 0.9⟩,
    ⟨"releases", 0.8⟩, ⟨" will launch ", 0.8⟩, ⟨" launch: ", 0.8⟩, ⟨" on launch day:", 0.8⟩,
    ⟨" with launch of ", 0.8⟩]
  titleBlacklist := [
    "manifesto", "report", "ago", "court", "lawsuit", "vinyl", "investigation", "election",
    "anniversary celebrations", "awards", "releases report", "releases .*white paper",
    "launches proxy ", "campaign launches", "launches audit", "releases apology",
    "releases suggest", "releases study", "releases video", "that launched", "lawyer", "usd/"] ++
    militaryWords
  body := [
    ⟨"announced they will launch ", 0.8⟩, ⟨" has launched ", 0.8⟩, ⟨"launches", 0.6⟩]
  bodyBlacklist := [
    "manifesto", "report", " ago", "was launched", "social media campaign", "fell", "rose",
    "as it launches", "were launched", "which launches", "launches into"] ++
    militaryWords

/-- The rules for rounds of fundraising. -/
def fundraising : HeuristicRules Float where
  title := [
    ⟨"series [a-e]( |$|,)", 1.0⟩, ⟨"angel round", 1.0⟩, ⟨"funding round", 1.0⟩,
    ⟨"raises \\$.+m funding", 1.0⟩, ⟨"raises \\$.+ million", 1.0⟩, ⟨"million of funding", 1.0⟩]
  titleBlacklist := ["declares .*dividend"]
  body := [
    ⟨"series [a-e](\\.| |,)", 0.9⟩, ⟨"angel round", 0.9⟩]

/-- The rules for sums of money, from hundreds of thousands to trillions. -/
def moneyRules : List (Rule Float) := [
  ⟨"[$€][0-9]+(\\.\\d+)?t", 1.0⟩, ⟨"[$€][0-9]+(\\.\\d+)? trillion", 1.0⟩,
  ⟨"[0-9]+(\\.\\d+)?t (dollars|euros|swiss franc)", 1.0⟩,
  ⟨"[0-9]+(\\.\\d+)? trillion (dollars|euros|swiss franc)", 1.0⟩, ⟨"[$€][0-9]+(\\.\\d+)?b", 1.0⟩,
  ⟨"[$€][0-9]+(\\.\\d+)? billion", 1.0⟩, ⟨"[0-9]+(\\.\\d+)?b (dollars|euros|swiss franc)", 1.0⟩,
  ⟨"[0-9]+(\\.\\d+)? billion (dollars|euros|swiss franc)", 1.0⟩,
  ⟨"[$€][0-9]\x7b2,\x7d(\\.\\d+)?m", 0.9⟩, ⟨"[$€][0-9]\x7b2,\x7d(\\.\\d+)? million", 0.9⟩,
  ⟨"[0-9]\x7b2,\x7d(\\.\\d+)?m (dollars|euros|swiss franc)", 0.9⟩,
  ⟨"[0-9]\x7b2,\x7d(\\.\\d+)? million (dollars|euros|swiss franc)", 0.9⟩,
  ⟨"[$€][0-9]+(\\.\\d+)?m", 0.8⟩, ⟨"[$€][0-9]+(\\.\\d+)? million", 0.8⟩,
  ⟨"[0-9]+(\\.\\d+)?m (dollars|euros|swiss franc)", 0.8⟩,
  ⟨"[0-9]+(\\.\\d+)? million (dollars|euros|swiss franc)", 0.8⟩,
  ⟨"[$€][0-9]\x7b3\x7d(\\.\\d+)?k", 0.6⟩, ⟨"[$€][0-9]\x7b3\x7d(\\.\\d+)? thousand", 0.6⟩,
  ⟨"[0-9]\x7b3\x7d(\\.\\d+)?k (dollars|euros|swiss franc)", 0.6⟩,
  ⟨"[0-9]\x7b3\x7d(\\.\\d+)? thousand (dollars|euros|swiss franc)", 0.6⟩,
  ⟨"[$€][1-9]\\d\x7b2\x7d(k|(,\\d\x7b3\x7d)+)", 0.6⟩]

/-- The rules for large sums of money. -/
def bigMoney : HeuristicRules Float where
  title := moneyRules
  body := moneyRules

/-- The rules for reports of quarterly earnings. -/
def quarterlyEarnings : HeuristicRules Float where
  title := [
    ⟨"\\sq[1-4]", 0.9⟩, ⟨"\\s[1-4]q", 0.9⟩, ⟨"\\s(first|second|third|fourth) quarter", 0.9⟩,
    ⟨"quarterly earnings", 0.9⟩, ⟨"earnings.*quarterly", 0.9⟩,
    ⟨"smashes earnings estimates", 0.9⟩, ⟨" earnings beat ", 0.9⟩]
  titleBlacklist := [
    "earning preview", "q[1-4] lending", " of q[1-4]", " for q[1-4]", "q[1-4] economy", "yields",
    "trendforce", "spending", "industrial reports", "vc", "\\?", "funding report", "figures",
    "installed", "earnings season"]
  body := [
    ⟨"announced its (first|second|third|fourth)-quarter numbers", 0.9⟩,
    ⟨"quarterly revenue", 0.6⟩, ⟨"beat analysts' estimates", 0.8⟩]
  bodyBlacklist := ["federal reserve"]

/-- A pattern for the numbers from two to twelve in words. -/
def smallNumbers : String :=
  "(two|three|four|five|six|seven|eight|nine|ten|eleven|twelve)"

/-- The rules for articles that are lists. -/
def lists : HeuristicRules Float where
  title := [
    ⟨"[0-9]\x7b1,2\x7d (ways|tips|things|numbers|reasons)", 1.0⟩,
    ⟨"^" ++ smallNumbers ++ " ", 0.9⟩, ⟨"^[0-9]\x7b1,2\x7d ", 0.9⟩, ⟨"this week:", 0.9⟩]
  body := [
    ⟨"the " ++ smallNumbers ++ " best .* of the week", 0.9⟩,
    ⟨"the [0-9]+ best .* of the week", 0.9⟩]

end NewsScoring.HeuristicRules
