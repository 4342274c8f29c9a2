import Populace.People.Sink
import Populace.Rows.Writer

/-!
People as rows of a table: identifier, name, date of birth, latitude, longitude.
-/

namespace Populace.People

/-- Somebody's row. -/
def Person.row (p : Person) : Rows.Row :=
  [p.id.text, p.name, p.born.text, Decimal.compact p.position.latitude,
    Decimal.compact p.position.longitude].map Text.bytesOf

/-- Writes everybody's row. -/
def Sink.rows : Sink Rows.Writer where
  emit p := Rows.Writer.putRow p.row
  finish := Rows.Writer.flush

end Populace.People
