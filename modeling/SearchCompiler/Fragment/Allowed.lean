/-!
The options that each kind of fragment takes. Whatever else a descriptor gives is left out, so these
lists are all that an option map can reach.
-/

namespace SearchCompiler.Fragment.Allowed

/-! Term-level queries. -/

def term : List String := ["boost", "case_insensitive", "_name"]

def terms : List String := ["boost", "_name"]

def range : List String := ["boost", "format", "time_zone", "relation", "_name"]

def wildcard : List String := ["boost", "case_insensitive", "rewrite", "_name"]

def regexp : List String :=
  ["boost", "flags", "case_insensitive", "max_determinized_states", "rewrite", "_name"]

def leading : List String := ["boost", "case_insensitive", "rewrite", "_name"]

def fuzzy : List String :=
  ["boost", "fuzziness", "max_expansions", "prefix_length", "transpositions", "rewrite", "_name"]

def present : List String := ["boost", "_name"]

def scriptQuery : List String := ["boost", "_name"]

def scriptBody : List String := ["lang", "params"]

/-! Full text queries. -/

def words : List String :=
  ["analyzer", "auto_generate_synonyms_phrase_query", "boost", "fuzziness", "fuzzy_rewrite",
    "fuzzy_transpositions", "lenient", "max_expansions", "minimum_should_match", "operator",
    "prefix_length", "zero_terms_query", "_name"]

def phrase : List String := ["analyzer", "boost", "slop", "zero_terms_query", "_name"]

def phraseStart : List String :=
  ["analyzer", "boost", "max_expansions", "slop", "zero_terms_query", "_name"]

def multiMatch : List String :=
  ["analyzer", "boost", "cutoff_frequency", "fuzziness", "fuzzy_rewrite", "lenient",
    "max_expansions", "minimum_should_match", "operator", "prefix_length", "slop", "tie_breaker",
    "type", "zero_terms_query", "_name"]

def queryString : List String :=
  ["allow_leading_wildcard", "analyze_wildcard", "analyzer",
    "auto_generate_synonyms_phrase_query", "boost", "default_field", "default_operator",
    "enable_position_increments", "fuzziness", "fuzzy_max_expansions", "fuzzy_prefix_length",
    "fuzzy_transpositions", "lenient", "max_determinized_states", "minimum_should_match",
    "phrase_slop", "quote_analyzer", "quote_field_suffix", "rewrite", "time_zone", "type",
    "_name"]

/-! Compound and joining queries. -/

def nested : List String := ["score_mode", "ignore_unmapped", "inner_hits", "boost", "_name"]

def functionScore : List String :=
  ["boost", "boost_mode", "max_boost", "min_score", "score_mode", "_name"]

def hasParent : List String := ["score", "ignore_unmapped", "inner_hits", "_name"]

def hasChild : List String :=
  ["score_mode", "min_children", "max_children", "ignore_unmapped", "inner_hits", "_name"]

def parentId : List String := ["ignore_unmapped", "_name"]

/-! Points. -/

def distance : List String :=
  ["distance_type", "validation_method", "ignore_unmapped", "boost", "_name"]

def box : List String := ["validation_method", "ignore_unmapped", "boost", "_name"]

/-! Sort entries. -/

def sortByField : List String :=
  ["missing", "mode", "nested", "unmapped_type", "numeric_type", "format"]

def sortByDistance : List String := ["unit", "mode", "distance_type", "ignore_unmapped"]

def sortPatch : List String := "order" :: sortByField

/-! Aggregations. -/

def termsBuckets : List String :=
  ["size", "shard_size", "order", "min_doc_count", "shard_min_doc_count", "missing", "include",
    "exclude", "collect_mode", "execution_hint", "show_term_doc_count_error", "value_type"]

def dateHistogram : List String :=
  ["format", "time_zone", "min_doc_count", "offset", "keyed", "missing", "order"]

def histogram : List String :=
  ["interval", "min_doc_count", "extended_bounds", "hard_bounds", "offset", "keyed", "missing",
    "order"]

def rangeBuckets : List String := ["keyed", "format", "time_zone", "missing"]

def compositeBuckets : List String := ["size", "after"]

def metric : List String :=
  ["missing", "script", "format", "percents", "values", "keyed", "precision_threshold",
    "compression", "hdr", "tdigest", "sigma", "show_distribution"]

def topHits : List String :=
  ["size", "from", "sort", "_source", "highlight", "explain", "docvalue_fields", "stored_fields"]

/-! Highlighting. -/

def highlight : List String :=
  ["boundary_chars", "boundary_max_scan", "boundary_scanner", "boundary_scanner_locale",
    "encoder", "fragmenter", "fragment_offset", "fragment_size", "highlight_query",
    "matched_fields", "max_analyzed_offset", "no_match_size", "number_of_fragments", "order",
    "phrase_limit", "require_field_match", "tags_schema", "type"]

end SearchCompiler.Fragment.Allowed
