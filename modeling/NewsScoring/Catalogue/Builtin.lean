import NewsScoring.Catalogue
import NewsScoring.Heuristic.Builtin

/-!
# The catalogue that comes with the library

Industries, intents of articles about startups, and the features with rules.
-/

namespace NewsScoring.Catalogue

/-- The industries with their numbers. -/
def industries : List (FeatureId × String) := [
  (10001, "Defense & Space"), (10003, "Computer Hardware"), (10004, "Computer Software"),
  (10005, "Computer Networking"), (10006, "Internet"), (10007, "Semiconductors"),
  (10008, "Telecommunications"), (10009, "Law Practice"), (10010, "Legal Services"),
  (10011, "Management Consulting"), (10012, "Biotechnology"), (10013, "Medical Practice"),
  (10014, "Hospital & Health Care"), (10015, "Pharmaceuticals"), (10016, "Veterinary"),
  (10017, "Medical Devices"), (10018, "Cosmetics"), (10019, "Apparel & Fashion"),
  (10020, "Sporting Goods"), (10021, "Tobacco"), (10022, "Supermarkets"),
  (10023, "Food Production"), (10024, "Consumer Electronics"), (10025, "Consumer Goods"),
  (10026, "Furniture"), (10027, "Retail"), (10028, "Entertainment"),
  (10029, "Gambling & Casinos"), (10030, "Leisure, Travel & Tourism"), (10031, "Hospitality"),
  (10032, "Restaurants"), (10033, "Sports"), (10034, "Food & Beverages"),
  (10035, "Motion Pictures and Film"), (10036, "Broadcast Media"),
  (10037, "Museums and Institutions"), (10038, "Fine Art"), (10039, "Performing Arts"),
  (10040, "Recreational Facilities and Services"), (10041, "Banking"), (10042, "Insurance"),
  (10043, "Financial Services"), (10044, "Real Estate"), (10045, "Investment Banking"),
  (10046, "Investment Management"), (10047, "Accounting"), (10048, "Construction"),
  (10049, "Building Materials"), (10050, "Architecture & Planning"), (10051, "Civil Engineering"),
  (10052, "Aviation & Aerospace"), (10053, "Automotive"), (10054, "Chemicals"),
  (10055, "Machinery"), (10056, "Mining & Metals"), (10057, "Oil & Energy"),
  (10058, "Shipbuilding"), (10059, "Utilities"), (10060, "Textiles"),
  (10061, "Paper & Forest Products"), (10062, "Railroad Manufacture"), (10063, "Farming"),
  (10064, "Ranching"), (10065, "Dairy"), (10066, "Fishery"),
  (10067, "Primary/Secondary Education"), (10068, "Higher Education"),
  (10069, "Education Management"), (10070, "Research"), (10071, "Military"),
  (10072, "Legislative Office"), (10073, "Judiciary"), (10074, "International Affairs"),
  (10075, "Government Administration"), (10076, "Executive Office"), (10077, "Law Enforcement"),
  (10078, "Public Safety"), (10079, "Public Policy"), (10080, "Marketing and Advertising"),
  (10081, "Newspapers"), (10082, "Publishing"), (10083, "Printing"),
  (10084, "Information Services"), (10085, "Libraries"), (10086, "Environmental Services"),
  (10087, "Package/Freight Delivery"), (10088, "Individual & Family Services"),
  (10089, "Religious Institutions"), (10090, "Civic & Social Organization"),
  (10091, "Consumer Services"), (10092, "Transportation/Trucking/Railroad"),
  (10093, "Warehousing"), (10094, "Airlines/Aviation"), (10095, "Maritime"),
  (10096, "Information Technology and Services"), (10097, "Market Research"),
  (10098, "Public Relations and Communications"), (10099, "Design"),
  (10100, "Non-Profit Organization Management"), (10101, "Fund-Raising"),
  (10102, "Program Development"), (10103, "Writing and Editing"),
  (10104, "Staffing and Recruiting"), (10105, "Professional Training & Coaching"),
  (10106, "Venture Capital & Private Equity"), (10107, "Political Organization"),
  (10108, "Translation and Localization"), (10109, "Computer Games"), (10110, "Events Services"),
  (10111, "Arts and Crafts"), (10112, "Electrical/Electronic Manufacturing"),
  (10113, "Online Media"), (10114, "Nanotechnology"), (10115, "Music"),
  (10116, "Logistics and Supply Chain"), (10117, "Plastics"),
  (10118, "Computer & Network Security"), (10119, "Wireless"),
  (10120, "Alternative Dispute Resolution"), (10121, "Security and Investigations"),
  (10122, "Facilities Services"), (10123, "Outsourcing/Offshoring"),
  (10124, "Health, Wellness and Fitness"), (10125, "Alternative Medicine"),
  (10126, "Media Production"), (10127, "Animation"), (10128, "Commercial Real Estate"),
  (10129, "Capital Markets"), (10130, "Think Tanks"), (10131, "Philanthropy"),
  (10132, "E-Learning"), (10133, "Wholesale"), (10134, "Import and Export"),
  (10135, "Mechanical or Industrial Engineering"), (10136, "Photography"),
  (10137, "Human Resources"), (10138, "Business Supplies and Equipment"),
  (10139, "Mental Health Care"), (10140, "Graphic Design"),
  (10141, "International Trade and Development"), (10142, "Wine and Spirits"),
  (10143, "Luxury Goods & Jewelry"), (10144, "Renewables & Environment"),
  (10145, "Glass, Ceramics & Concrete"), (10146, "Packaging and Containers"),
  (10147, "Industrial Automation"), (10148, "Government Relations")]

/-- The intents with their numbers. -/
def intents : List (FeatureId × String) := [
  (20000, "Related to tech startups"),
  (20001, "Related to traditional brick and mortar startups")]

/-- The entry of a feature that compares articles with a seed. -/
def vectorEntry (category : Category) (feature : FeatureId × String) : CatalogueEntry Float where
  id := feature.1
  category := category
  title := feature.2

/-- The entry of a feature with rules. -/
def rulesEntry (id : FeatureId) (title : String) (rules : HeuristicRules Float) :
    CatalogueEntry Float where
  id := id
  category := .manualHeuristic
  title := title
  rules := some rules

/-- The entries of the features with rules. -/
def heuristics : List (CatalogueEntry Float) := [
  rulesEntry 30000 "Acquisitions" .acquisitions,
  rulesEntry 30001 "Product launches" .launches,
  rulesEntry 30002 "Fundraising rounds" .fundraising,
  rulesEntry 30003 "Big money" .bigMoney,
  rulesEntry 30004 "Quarterly earnings" .quarterlyEarnings,
  rulesEntry 30005 "List articles" .lists]

/-- All entries, category by category. -/
def builtinEntries : List (CatalogueEntry Float) :=
  industries.map (vectorEntry .industry) ++ intents.map (vectorEntry .intent) ++ heuristics

/-- The numbers of all entries. -/
theorem map_id_builtinEntries :
    builtinEntries.map CatalogueEntry.id =
      industries.map Prod.fst ++ intents.map Prod.fst ++
        [30000, 30001, 30002, 30003, 30004, 30005] := by
  simp only [builtinEntries, List.map_append, List.map_map]
  rfl

/-- The catalogue that comes with the library. -/
def builtin : Catalogue Float where
  version := 1
  entries := builtinEntries
  nodup_ids := by
    rw [map_id_builtinEntries]
    decide +kernel

end NewsScoring.Catalogue
