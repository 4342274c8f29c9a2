import Populace.Sources.Dataset

/-!
Settings: where each reference table comes from, and where downloads are kept.
-/

namespace Populace.Sources

/-- Where a table comes from. -/
inductive Source where
  /-- Downloaded once, and then read from where downloads are kept. -/
  | url (url : String)
  | file (path : String)
  deriving DecidableEq, Repr

/-- What begins with `http://` or `https://` is an address, and all else a path. -/
def Source.ofText (text : String) : Source :=
  if "http://".toList.isPrefixOf text.toList || "https://".toList.isPrefixOf text.toList then
    .url text
  else .file text

/-- Where downloads are kept, and where the tables come from. -/
structure Settings where
  cache : String
  source : Dataset → Source

/-- What can be set. -/
inductive Setting where
  | cache
  | source (dataset : Dataset)
  deriving DecidableEq, Repr

namespace Setting

/-- All there is to set. -/
def all : List Setting :=
  .cache :: Dataset.all.map .source

/-- The setting's name. -/
def key : Setting → String
  | .cache => "cache_dir"
  | .source dataset => dataset.key

/-- The setting of this name. -/
def ofKey? (key : String) : Option Setting :=
  all.find? fun s => s.key = key

end Setting

namespace Settings

/-- What holds where nothing is set. -/
def standard : Settings where
  cache := "data/input"
  source
    | .internetUsers =>
      .url ("https://www.cia.gov/library/publications/the-world-factbook/rankorder/"
        ++ "rawdata_2153.txt")
    | .areas =>
      .url ("https://www.cia.gov/library/publications/the-world-factbook/rankorder/"
        ++ "rawdata_2147.txt")
    | .locations =>
      .url ("http://www.opengeocode.org/cude/download.php?file=/home/fashions/public_html/"
        ++ "opengeocode.org/download/cow.txt")
    | .firstNames =>
      .url "http://www.quietaffiliate.com/Files/CSV_Database_of_First_Names.csv"
    | .lastNames =>
      .url "http://www.quietaffiliate.com/Files/CSV_Database_of_Last_Names.csv"

/-- With one thing set. -/
def set (s : Settings) (setting : Setting) (text : String) : Settings :=
  match setting with
  | .cache => { s with cache := text }
  | .source dataset =>
    { s with source := fun d => if d = dataset then .ofText text else s.source d }

end Settings

end Populace.Sources
