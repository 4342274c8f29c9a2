import Populace.Main
import Populace.Proofs.Census.Population
import Populace.Proofs.Command.Output
import Populace.Proofs.Sources.Cached
import Populace.Proofs.Census.Allocation
import Populace.Proofs.People.Identifiers
import Populace.Proofs.People.Records
import Populace.Proofs.Rows.Limits
import Populace.Proofs.Census.Limited
import Populace.Proofs.Geo.Bounds
import Populace.Proofs.Census.Endings
import Populace.Proofs.Census.Settling
import Populace.Proofs.Census.Alike
import Populace.Proofs.Files.Folders
import Populace.Proofs.Files.Siblings
import Populace.Proofs.Sources.Containment
import Populace.Proofs.Sources.Order
import Populace.Proofs.Journal.Stories
import Populace.Proofs.Journal.Gains
import Populace.Proofs.Blame
import Populace.Proofs.Sources.Lines
import Populace.Proofs.Census.Lines
import Populace.Proofs.Journal.Agreement
import Populace.Proofs.Command.Effects
import Populace.Proofs.Rows.Plain
import Populace.Proofs.Sources.Reading
import Populace.Proofs.Decimal.Whole
import Populace.Proofs.Sources.RankFile
import Populace.Proofs.Rows.Boundaries
import Populace.Proofs.Sources.NameList
import Populace.Proofs.Sources.CountryFile
import Populace.Proofs.Sources.Comments
import Populace.Proofs.Census.Fairness
import Populace.Proofs.Sources.Stages
import Populace.Proofs.Rows.Settled
import Populace.Proofs.Sources.Breaks
import Populace.Proofs.Journal.Closing
import Populace.Proofs.People.Making
import Populace.Proofs.People.FairDraws
import Populace.Proofs.Text.Grouped
import Populace.Proofs.Geo.Spread
