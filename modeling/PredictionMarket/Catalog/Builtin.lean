import PredictionMarket.Catalog

/-!
# The built-in templates

The templates that every deployment offers. In each of them the outcome at a position has
that position as its index, every extraction rule yields the same index for the same
result in the world, and a rule yields an empty object as long as its source cannot decide.
-/

namespace PredictionMarket

namespace Builtin

/-- A variable of a kind with a label. -/
def labelled (kind : VariableKind) (label : String) (required : Bool) : Variable where
  kind
  required
  label := some label
  fallback := none
  decimals := none
  options := []
  entity := none

/-- A text that must be given. -/
def text (label : String) : Variable := labelled .text label true

/-- A number that must be given, shown with at most so many places. -/
def number (label : String) (decimals : UInt32) : Variable :=
  { labelled .number label true with decimals := some decimals }

/-- An entity that must be given. -/
def entity (label kind : String) : Variable :=
  { labelled .entity label true with entity := some kind }

/-- An instant that must be given. -/
def attestation (label : String) : Variable := labelled .datetime label true

/-- One of some options, of which one is the default. -/
def select (label fallback : String) (options : List (String × String)) : Variable :=
  { labelled .select label false with
    fallback := some (.string fallback)
    options := options.map fun option => ⟨option.1, option.2⟩ }

/-- The direction of a price comparison. -/
def comparison : Variable :=
  select "Direction" "above" [("above", "Above"), ("below", "Below")]

/-- A data source that is asked by a plain request. -/
def source (name endpoint rule : String) : DataSource where
  name
  method := .get
  endpoint
  query := none
  headers := none
  body := none
  rule
  shape := .outcomeIndex

/-- A data source that is asked with query parameters. -/
def sourceWith (name endpoint : String) (query : List (String × String)) (rule : String) :
    DataSource :=
  { source name endpoint rule with query := some (Dict.ofList query) }

/-- The defaults of a market whose outcomes are shown in their order. -/
def defaults (outcomes : List String) (consensusThreshold marketCap : UInt8) :
    MarketDefaults where
  outcomes := outcomes.zipIdx.map fun outcome => ⟨outcome.1, UInt32.ofNat outcome.2⟩
  consensusThreshold
  collateralToken := "USDT0"
  marketCap

/-- The rule for a series of price points of which the last one before the attestation
time counts. -/
def pricePointsRule : String :=
  r#"([.prices[] | select(.[0] <= {{attestationTimeUnixMs}})] | last) as $p | "# ++
    r#"if $p == null then {} else {outcomeIdx: (if $p[1] {{comparisonOp}} {{price}} "# ++
    r#"then 0 else 1 end)} end"#

/-- The rule for a series of minutes of which the last one counts. -/
def lastMinuteRule : String :=
  r#"(.Data.Data | last) as $c | if $c == null then {} else "# ++
    r#"{outcomeIdx: (if $c.close {{comparisonOp}} {{price}} then 0 else 1 end)} end"#

/-- The query parameters of the price window. -/
def priceWindowQuery : List (String × String) := [
  ("vs_currency", "usd"),
  ("from", "{{attestationWindowStartUnix}}"),
  ("to", "{{attestationTimeUnix}}")]

/-- The query parameters of the last minute of a symbol. -/
def lastMinuteQuery (symbol : String) : List (String × String) := [
  ("fsym", symbol),
  ("tsym", "USD"),
  ("limit", "1"),
  ("toTs", "{{attestationTimeUnix}}")]

/-- The price of FLR at a time. -/
def flrPrice : Template where
  id := "flr-price"
  name := "FLR Price"
  description := "Will FLR trade above or below a target price at a given time?"
  category := "crypto"
  image := "templates/flr-price.png"
  schema := Dict.ofList [
    ("price", number "Target price (USD)" 5),
    ("comparisonType", comparison),
    ("attestationTime", attestation "Price checked at")]
  question := "Will FLR be {{comparisonType}} ${{priceFormatted}} on {{attestationTime}} UTC?"
  resolution :=
    "This market resolves to \"Yes\" if the FLR/USD price at {{attestationTime}} UTC " ++
    "(unix {{attestationTimeUnix}}) is {{comparisonType}} ${{priceFormatted}}, and to " ++
    "\"No\" otherwise. \"Above\" means greater than or equal to the target; \"below\" " ++
    "means strictly less than the target. The CoinGecko price is authoritative; Binance " ++
    "FLR/USDT and CryptoCompare minute closes corroborate it."
  sources := [
    sourceWith "coingecko"
      "{{apiProxyPrefix}}/coingecko/api/v3/coins/flare-networks/market_chart/range"
      priceWindowQuery pricePointsRule,
    sourceWith "binance" "{{apiProxyPrefix}}/binance/api/v3/klines"
      [("symbol", "FLRUSDT"), ("interval", "1m"), ("startTime", "{{attestationTimeUnixMs}}"),
        ("limit", "1")]
      (r#"if length == 0 then {} else {outcomeIdx: (if (.[0][4] | tonumber) "# ++
        r#"{{comparisonOp}} {{price}} then 0 else 1 end)} end"#),
    sourceWith "cryptocompare" "{{apiProxyPrefix}}/cryptocompare/data/v2/histominute"
      (lastMinuteQuery "FLR") lastMinuteRule]
  defaults := defaults ["Yes", "No"] 66 5

/-- The price of any listed coin at a time. -/
def cryptoPrice : Template where
  id := "crypto-price"
  name := "Crypto Price"
  description :=
    "Will a listed cryptocurrency trade above or below a target price at a given time?"
  category := "crypto"
  image := "templates/crypto-price.png"
  schema := Dict.ofList [
    ("coinId", entity "CoinGecko coin" "coingecko-coin"),
    ("symbol", text "Ticker symbol"),
    ("price", number "Target price (USD)" 2),
    ("comparisonType", comparison),
    ("attestationTime", attestation "Price checked at")]
  question :=
    "Will {{symbol}} be {{comparisonType}} ${{priceFormatted}} on {{attestationTime}} UTC?"
  resolution :=
    "This market resolves to \"Yes\" if the {{symbol}}/USD price at {{attestationTime}} UTC " ++
    "is {{comparisonType}} ${{priceFormatted}}, and to \"No\" otherwise. \"Above\" means " ++
    "greater than or equal to the target; \"below\" means strictly less than the target. " ++
    "CoinGecko ({{coinId}}) is authoritative; the CryptoCompare minute close corroborates it."
  sources := [
    sourceWith "coingecko"
      "{{apiProxyPrefix}}/coingecko/api/v3/coins/{{coinId}}/market_chart/range"
      priceWindowQuery pricePointsRule,
    sourceWith "cryptocompare" "{{apiProxyPrefix}}/cryptocompare/data/v2/histominute"
      (lastMinuteQuery "{{symbol}}") lastMinuteRule]
  defaults := defaults ["Yes", "No"] 100 5

/-- The value locked in a protocol by a deadline. -/
def tvlGoal : Template where
  id := "tvl-goal"
  name := "Protocol TVL Goal"
  description := "Will a DeFi protocol's total value locked reach a goal by a deadline?"
  category := "defi"
  image := "templates/tvl-goal.png"
  schema := Dict.ofList [
    ("protocol", entity "DefiLlama protocol slug" "defillama-protocol"),
    ("protocolName", text "Protocol name"),
    ("goal", number "TVL goal (USD)" 0),
    ("attestationTime", attestation "Deadline")]
  question := "Will {{protocolName}} TVL reach ${{goalFormatted}} by {{attestationTimeDate}}?"
  resolution :=
    "This market resolves to \"Yes\" if the total value locked of {{protocolName}} as " ++
    "reported by DefiLlama is at least ${{goalFormatted}} at {{attestationTime}} UTC, and to " ++
    "\"No\" otherwise. The daily TVL series is authoritative; the current TVL endpoint " ++
    "corroborates it."
  sources := [
    source "defillama-history" "{{apiProxyPrefix}}/defillama/protocol/{{protocol}}"
      (r#"([.tvl[] | select(.date <= {{attestationTimeUnix}})] | last) as $t | "# ++
        r#"if $t == null then {} else {outcomeIdx: (if $t.totalLiquidityUSD >= {{goal}} "# ++
        r#"then 0 else 1 end)} end"#),
    source "defillama-current" "{{apiProxyPrefix}}/defillama/tvl/{{protocol}}"
      (r#"if type == "number" then {outcomeIdx: (if . >= {{goal}} then 0 else 1 end)} "# ++
        r#"else {} end"#)]
  defaults := defaults ["Yes", "No"] 100 10

/-- The winner of a football match. -/
def footballMatchWinner : Template where
  id := "football-match-winner"
  name := "Football Match Winner"
  description := "Who will win a football match: home side, away side, or a draw?"
  category := "sports"
  image := "templates/football-match-winner.png"
  schema := Dict.ofList [
    ("homeTeam", text "Home team"),
    ("awayTeam", text "Away team"),
    ("matchId", entity "API-Football fixture id" "api-football-fixture"),
    ("footballDataMatchId", entity "football-data.org match id" "football-data-match"),
    ("attestationTime", attestation "Kick-off")]
  question := "Who will win {{homeTeam}} vs {{awayTeam}} on {{matchDateFormatted}} UTC?"
  resolution :=
    "This market resolves to \"{{homeTeam}}\" if {{homeTeam}} wins, \"Draw\" if the match " ++
    "ends level, and \"{{awayTeam}}\" if {{awayTeam}} wins. Extra time and penalty " ++
    "shoot-outs count when the competition uses them. The match kicks off at " ++
    "{{matchDateFormatted}} UTC. API-Football fixture {{matchId}} is authoritative; " ++
    "football-data.org corroborates it."
  sources := [
    sourceWith "api-football" "{{apiProxyPrefix}}/api-football/fixtures"
      [("id", "{{matchId}}")]
      (r#".response[0] as $f | if $f == null then {} "# ++
        r#"elif ($f.fixture.status.short | IN("FT", "AET", "PEN") | not) then {} "# ++
        r#"elif $f.teams.home.winner == true then {outcomeIdx: 0} "# ++
        r#"elif $f.teams.away.winner == true then {outcomeIdx: 2} else {outcomeIdx: 1} end"#),
    { source "football-data"
        "{{apiProxyPrefix}}/football-data/v4/matches/{{footballDataMatchId}}"
        (r#"if .status != "FINISHED" then {} "# ++
          r#"elif .score.winner == "HOME_TEAM" then {outcomeIdx: 0} "# ++
          r#"elif .score.winner == "DRAW" then {outcomeIdx: 1} "# ++
          r#"elif .score.winner == "AWAY_TEAM" then {outcomeIdx: 2} else {} end"#) with
      headers := some (Dict.ofList [("Accept", "application/json")]) }]
  defaults := defaults ["Home", "Draw", "Away"] 100 10

/-- A page of a hundred entries, as a request body. -/
def firstPage : Json :=
  .object [
    ("page", .number (.integer ⟨1, by decide, by decide⟩)),
    ("pageSize", .number (.integer ⟨100, by decide, by decide⟩))]

/-- The winner of a match of League of Legends. -/
def esportsMatchWinner : Template where
  id := "esports-match-winner"
  name := "Esports Match Winner"
  description := "Which team will win a League of Legends match?"
  category := "esports"
  image := "templates/esports-match-winner.png"
  schema := Dict.ofList [
    ("teamA", text "Team A"),
    ("teamB", text "Team B"),
    ("matchId", entity "PandaScore match id" "pandascore-match"),
    ("league", select "League" "lpl" [("lpl", "LPL"), ("ldl", "LDL")]),
    ("attestationTime", attestation "Scheduled start")]
  question := "Will {{teamA}} or {{teamB}} win their match on {{attestationTime}} UTC?"
  resolution :=
    "This market resolves to \"{{teamA}}\" if {{teamA}} wins the series and to " ++
    "\"{{teamB}}\" if {{teamB}} wins it. The match is scheduled for " ++
    "{{attestationTimeFormatted}} Beijing time ({{attestationTime}} UTC). PandaScore match " ++
    "{{matchId}} is authoritative; the official league schedule corroborates it."
  sources := [
    sourceWith "pandascore" "{{apiProxyPrefix}}/pandascore/lol/matches"
      [("filter[id]", "{{matchId}}")]
      (r#".[0] as $m | if $m == null or $m.status != "finished" or $m.winner == null "# ++
        r#"then {} elif $m.winner.name == "{{teamA}}" then {outcomeIdx: 0} "# ++
        r#"elif $m.winner.name == "{{teamB}}" then {outcomeIdx: 1} else {} end"#),
    { sourceWith "league-schedule" "{{apiProxyPrefix}}/lpl/api/schedule"
        [("league", "{{league}}")]
        (r#"([.data[] | select(.matchTime == "{{attestationTimeFormatted}}" "# ++
          r#"and .teamA == "{{teamA}}" and .teamB == "{{teamB}}")] | first) as $m | "# ++
          r#"if $m == null or $m.status != "finished" then {} "# ++
          r#"elif $m.scoreA > $m.scoreB then {outcomeIdx: 0} "# ++
          r#"elif $m.scoreB > $m.scoreA then {outcomeIdx: 1} else {} end"#) with
      method := .post
      headers := some (Dict.ofList [("Content-Type", "application/json")])
      body := some firstPage }]
  defaults := defaults ["Team A", "Team B"] 100 10

/-- The built-in templates, in the order in which they are shown. -/
def templates : List Template :=
  [flrPrice, cryptoPrice, tvlGoal, footballMatchWinner, esportsMatchWinner]

end Builtin

/-- The catalog of the built-in templates. -/
def Catalog.builtin : Catalog := ⟨Builtin.templates, _, rfl⟩

end PredictionMarket
