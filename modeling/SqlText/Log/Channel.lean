/-!
# Channels — the names of the loggers that report on statements

    Channel.clauses  =  "query.specs"

Each part of statement building reports under one name. The names share an ancestor, so a
level set there holds for all of them.
-/

namespace SqlText.Log.Channel

/-- Reports on clause inputs: what is left out, unknown or malformed. -/
def clauses : String := "query.specs"

/-- Reports on SELECT statements. -/
def selection : String := "query.query_builder"

/-- Reports on statements that change rows. -/
def change : String := "query.dml"

/-- Reports on requests by verb. -/
def request : String := "query.statements"

end SqlText.Log.Channel
