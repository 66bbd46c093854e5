import RelationAuth.Calendar.Timestamp
import RelationAuth.Json.Writer
import RelationAuth.Wire.Source

/-!
# Instants on the wire
-/

namespace RelationAuth.Instant

/-- An instant as it is read from its timestamp. -/
def read? {ν : Type} [Source ν] (node : ν) : Option Instant :=
  (Source.text? node).bind Timestamp.parse?

/-- An instant as it is written, by its timestamp. -/
def toJson (instant : Instant) : Json :=
  .string (Timestamp.render instant)

/-- An instant as JSON, or null where there is none. -/
def toJson? (instant : Option Instant) : Json :=
  (instant.map toJson).getD .null

end RelationAuth.Instant
