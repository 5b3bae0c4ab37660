import NewsScoring.Stopwords

/-!
# English stopwords

The list that is used where no other is configured.
-/

namespace NewsScoring.Stopwords

/-- The words of the English list. -/
def englishWords : List String := [
  "a", "about", "above", "across", "after", "afterwards", "again", "against", "all", "almost",
  "alone", "along", "already", "also", "although", "always", "am", "among", "amongst", "amount",
  "an", "and", "another", "any", "anyhow", "anyone", "anything", "anyway", "anywhere", "are",
  "around", "as", "at", "back", "be", "became", "because", "become", "becomes", "becoming", "been",
  "before", "beforehand", "behind", "being", "below", "beside", "besides", "between", "beyond",
  "both", "bottom", "but", "by", "call", "can", "cannot", "could", "did", "do", "does", "doing",
  "done", "down", "due", "during", "each", "either", "else", "elsewhere", "enough", "etc", "even",
  "ever", "every", "everyone", "everything", "everywhere", "except", "few", "for", "former",
  "formerly", "from", "front", "full", "further", "get", "gets", "getting", "give", "given", "go",
  "goes", "going", "gone", "got", "had", "has", "have", "having", "he", "hence", "her", "here",
  "hereafter", "hereby", "herein", "hereupon", "hers", "herself", "him", "himself", "his", "how",
  "however", "i", "if", "in", "indeed", "into", "is", "it", "its", "itself", "just", "keep",
  "last", "latter", "latterly", "least", "less", "made", "many", "may", "me", "meanwhile", "might",
  "mine", "more", "moreover", "most", "mostly", "much", "must", "my", "myself", "namely",
  "neither", "never", "nevertheless", "next", "no", "nobody", "none", "noone", "nor", "not",
  "nothing", "now", "nowhere", "of", "off", "often", "on", "once", "one", "only", "onto", "or",
  "other", "others", "otherwise", "our", "ours", "ourselves", "out", "over", "own", "part", "per",
  "perhaps", "please", "put", "rather", "re", "really", "said", "same", "say", "says", "see",
  "seem", "seemed", "seeming", "seems", "several", "she", "should", "show", "side", "since", "so",
  "some", "somehow", "someone", "something", "sometime", "sometimes", "somewhere", "still", "such",
  "than", "that", "the", "their", "theirs", "them", "themselves", "then", "thence", "there",
  "thereafter", "thereby", "therefore", "therein", "thereupon", "these", "they", "this", "those",
  "though", "through", "throughout", "thru", "thus", "to", "together", "too", "top", "toward",
  "towards", "under", "until", "up", "upon", "us", "used", "using", "very", "via", "was", "we",
  "well", "were", "what", "whatever", "when", "whence", "whenever", "where", "whereafter",
  "whereas", "whereby", "wherein", "whereupon", "wherever", "whether", "which", "while", "whither",
  "who", "whoever", "whole", "whom", "whose", "why", "will", "with", "within", "without", "would",
  "yet", "you", "your", "yours", "yourself", "yourselves"
]

/-- The English list. -/
def english : Stopwords :=
  ofList englishWords

end NewsScoring.Stopwords
