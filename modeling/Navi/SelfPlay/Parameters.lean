import Navi.Base.Rounding
import Navi.Memory.ParameterRegistry

/-!
# The parameters of self-play

The dynamic parameters with their shipped defaults, the bounds within which self-play explores
them, and the parameters that the memory regression gate checks.
-/

namespace Navi.SelfPlay

open Navi.Base Navi.Memory

/-- `SYSTEM_DYNAMIC_PARAMETERS`. -/
def systemDynamicParameters : List (String × Rat) :=
  [("cue_weight_coverage", 0.60), ("cue_weight_jaccard", 0.25), ("cue_weight_sequence", 0.15),
    ("tf_reinforcement_rate", 0.15), ("tf_max_extra_boost", 3), ("ltp_boost_delta", 0.05),
    ("decay_base_delta", 0.05), ("decay_stale_threshold", 0.20),
    ("decay_grace_seconds", 90 * 86400), ("decay_stability_scale", 1),
    ("graph_fanout_damping", 3), ("hebbian_learning_rate", 0.05),
    ("credit_assignment_learning_rate", 0.05), ("temporal_discount_factor", 0.85),
    ("confidence_reduction_delta", 0.10), ("consolidation_default_confidence", 0.70),
    ("consolidation_history_retention_seconds", 90 * 86400),
    ("graph_hub_degree_cutoff_multiplier", 3), ("recall_fts_pool_multiplier", 3),
    ("recall_lexical_pool_multiplier", 20), ("recall_candidate_pool_min", 200),
    ("consolidation_lease_seconds", 300), ("context_recent_base_no_query", 950),
    ("context_recent_base_query", 620), ("context_message_rank_base_score", 900),
    ("context_memory_recall_base_score", 800), ("consolidation_idle_seconds", 30),
    ("memory_llm_rerank_threshold", 0.50), ("memory_render_context_max_chars", 256),
    ("memory_regression_gate_threshold", 0.85), ("memory_conflict_similarity_threshold", 0.35),
    ("provider_retry_after_seconds", 15), ("weixin_rate_limit_retry_seconds", 900),
    ("weixin_transient_rejection_retry_seconds", 60), ("saga_grace_seconds", 60),
    ("saga_lease_timeout_turn", 120), ("detached_recovery_grace_seconds", 90),
    ("effect_lease_seconds", 900), ("watchdog_heartbeat_timeout_seconds", 120),
    ("safeguards_entropy_threshold", 4.5), ("safeguards_confidence_threshold", 0.80),
    ("loop_max_turns", 30), ("loop_max_attempts_turn", 5), ("loop_max_attempts_control", 3),
    ("loop_max_attempts_scheduled", 6), ("loop_max_attempts_durable_goal", 10),
    ("max_parallel_tool_calls", 5), ("evals_passing_score_threshold", 0.85),
    ("daemon_poll_interval_seconds", 60), ("transient_retention_seconds", 86400),
    ("planner_fact_max_depth", 8), ("model_fact_max_chars", 48000),
    ("model_fact_max_string_chars", 4000), ("model_fact_max_depth", 5),
    ("model_fact_max_items", 30), ("context_evidence_max_items", 20),
    ("context_evidence_excerpt_chars", 700), ("context_recent_message_limit", 6),
    ("outbox_max_attempts", 3), ("outbox_stale_sending_seconds", 300), ("child_max_active", 3),
    ("child_max_timeout_seconds", 900), ("child_max_token_budget", 50000),
    ("child_max_call_budget", 12), ("child_max_cost_budget", 2), ("child_max_qps", 5),
    ("reward_success", 1), ("reward_degraded", 0.2), ("severity_safeguard_policy", 1),
    ("severity_loop_no_progress", 0.8), ("severity_planner_or_parser", 0.7),
    ("severity_checker_blocked", 0.6), ("severity_capability_failure", 0.5),
    ("severity_runtime", 0.4), ("severity_provider_no_response", 0.3), ("severity_default", 0.5),
    ("prompt_mutation_temperature", 0.70), ("prompt_evaluation_threshold", 0.80),
    ("planner_context_message_limit", 200), ("planner_context_recent_messages", 12),
    ("planner_context_max_chars", 12000), ("planner_context_older_preview_messages", 8),
    ("planner_context_older_preview_chars", 220),
    ("planner_context_recent_message_max_chars", 2000), ("planner_memory_item_max_chars", 800),
    ("planner_attempt_history_limit", 8), ("planner_attempt_history_max_chars", 16000),
    ("planner_attempt_message_max_chars", 1000), ("planner_prior_result_max_chars", 4000),
    ("planner_ambient_record_limit", 3), ("semantic_checker_attempt_limit", 4),
    ("semantic_checker_args_max_chars", 3000), ("semantic_checker_facts_max_chars", 6000),
    ("semantic_checker_message_max_chars", 3000),
    ("semantic_checker_evidence_summary_max_chars", 2000),
    ("semantic_checker_verdict_error_chars", 200), ("semantic_checker_verdict_retries", 1),
    ("task_result_preview_chars", 240), ("provider_transport_max_retries", 3),
    ("provider_transport_retry_min_seconds", 1), ("provider_transport_retry_max_seconds", 300),
    ("execution_lease_min_seconds", 900), ("execution_lease_heartbeat_max_seconds", 30),
    ("default_port_probe_timeout_seconds", 1), ("daemon_project_event_concurrency", 4),
    ("max_git_status_prompt_chars", 5000), ("max_log_read_bytes", 512000),
    ("max_log_prompt_chars", 100000), ("provider_error_max_chars", 1000),
    ("skill_file_max_bytes", 200000), ("search_title_max_chars", 300),
    ("search_snippet_max_chars", 1200), ("search_response_max_bytes", 2000000),
    ("search_x_response_max_bytes", 4000000), ("connector_idle_timeout_seconds", 120),
    ("connector_heartbeat_interval_seconds", 20), ("telegram_get_file_timeout_seconds", 15),
    ("telegram_download_timeout_seconds", 60), ("weixin_config_timeout_seconds", 10),
    ("weixin_context_token_max_age_seconds", 86400), ("weixin_ingress_stale_after_seconds", 180),
    ("parameter_momentum_beta", 0.90), ("parameter_learning_rate", 0.05),
    ("parameter_ema_alpha", 0.80), ("replay_buffer_capacity", 5000),
    ("replay_priority_alpha", 0.60), ("replay_priority_epsilon", 0.01),
    ("telegram_send_message_timeout_seconds", 30), ("weixin_qr_timeout_seconds", 35),
    ("weixin_updates_timeout_seconds", 40), ("weixin_send_timeout_seconds", 15),
    ("weixin_upload_timeout_seconds", 120), ("diagnostics_probe_timeout_seconds", 5),
    ("diagnostics_systemctl_timeout_seconds", 8), ("git_command_timeout_seconds", 8),
    ("git_detector_timeout_seconds", 10), ("http_fetch_pinned_ip_timeout_seconds", 15),
    ("event_bus_drain_timeout_seconds", 5), ("event_bus_shutdown_timeout_seconds", 5)]

/-- `_PARAMETER_EXPLORATION_BOUNDS`: the least and the greatest value, and the step. -/
def parameterExplorationBounds : List (String × Rat × Rat × Rat) :=
  [("cue_weight_coverage", 0.10, 0.90, 0.05), ("cue_weight_jaccard", 0.05, 0.80, 0.05),
    ("cue_weight_sequence", 0.05, 0.80, 0.05), ("decay_base_delta", 0.01, 0.20, 0.02),
    ("decay_stale_threshold", 0.05, 0.50, 0.05), ("ltp_boost_delta", 0.01, 0.20, 0.02),
    ("provider_retry_after_seconds", 5, 60, 2.5), ("loop_max_turns", 10, 60, 5),
    ("loop_max_attempts_turn", 2, 10, 1), ("loop_max_attempts_control", 1, 6, 1),
    ("loop_max_attempts_scheduled", 3, 12, 1), ("loop_max_attempts_durable_goal", 5, 20, 1),
    ("temporal_discount_factor", 0.50, 0.99, 0.05),
    ("confidence_reduction_delta", 0.02, 0.30, 0.02),
    ("prompt_mutation_temperature", 0.20, 1.00, 0.10),
    ("prompt_evaluation_threshold", 0.50, 0.95, 0.05),
    ("safeguards_entropy_threshold", 2, 8, 0.5),
    ("safeguards_confidence_threshold", 0.50, 0.95, 0.05),
    ("hebbian_learning_rate", 0.01, 0.20, 0.02),
    ("credit_assignment_learning_rate", 0.01, 0.20, 0.02),
    ("consolidation_default_confidence", 0.40, 0.90, 0.05),
    ("graph_edge_prune_threshold", 0.05, 0.40, 0.05), ("saga_lease_timeout_turn", 30, 300, 30),
    ("saga_lease_timeout_control", 15, 120, 15), ("daemon_poll_interval_seconds", 10, 300, 10),
    ("transient_retention_seconds", 3600, 604800, 3600), ("planner_fact_max_depth", 2, 16, 1),
    ("model_fact_max_chars", 10000, 128000, 4000),
    ("model_fact_max_string_chars", 1000, 10000, 500), ("model_fact_max_depth", 2, 10, 1),
    ("model_fact_max_items", 10, 100, 5), ("context_evidence_max_items", 5, 50, 5),
    ("context_evidence_excerpt_chars", 200, 2000, 100),
    ("context_recent_message_limit", 2, 20, 2), ("outbox_max_attempts", 1, 10, 1),
    ("outbox_stale_sending_seconds", 60, 1800, 60), ("child_max_active", 1, 10, 1),
    ("child_max_timeout_seconds", 60, 3600, 60), ("child_max_token_budget", 10000, 200000, 10000),
    ("child_max_call_budget", 3, 50, 3), ("child_max_cost_budget", 0.5, 10, 0.5),
    ("child_max_qps", 1, 20, 1), ("reward_success", 0.5, 2, 0.1),
    ("reward_degraded", 0, 0.5, 0.05), ("severity_safeguard_policy", 0.5, 1, 0.1),
    ("severity_loop_no_progress", 0.4, 1, 0.1), ("severity_planner_or_parser", 0.3, 1, 0.1),
    ("severity_checker_blocked", 0.3, 1, 0.1), ("severity_capability_failure", 0.2, 0.9, 0.1),
    ("severity_runtime", 0.2, 0.8, 0.1), ("severity_provider_no_response", 0.1, 0.6, 0.1),
    ("planner_context_message_limit", 50, 500, 25), ("planner_context_recent_messages", 4, 30, 2),
    ("planner_context_max_chars", 4000, 32000, 2000),
    ("planner_context_older_preview_messages", 2, 20, 2),
    ("planner_context_older_preview_chars", 100, 500, 20),
    ("planner_context_recent_message_max_chars", 500, 5000, 250),
    ("planner_memory_item_max_chars", 200, 2000, 100),
    ("planner_attempt_history_limit", 2, 20, 2),
    ("planner_attempt_history_max_chars", 4000, 32000, 2000),
    ("planner_attempt_message_max_chars", 200, 2500, 100),
    ("planner_prior_result_max_chars", 1000, 10000, 500),
    ("planner_ambient_record_limit", 1, 10, 1), ("semantic_checker_attempt_limit", 1, 10, 1),
    ("semantic_checker_args_max_chars", 500, 8000, 500),
    ("semantic_checker_facts_max_chars", 1000, 15000, 1000),
    ("semantic_checker_message_max_chars", 500, 8000, 500),
    ("semantic_checker_evidence_summary_max_chars", 500, 5000, 250),
    ("semantic_checker_verdict_error_chars", 50, 500, 25),
    ("semantic_checker_verdict_retries", 0, 3, 1), ("task_result_preview_chars", 60, 600, 30),
    ("provider_transport_max_retries", 1, 8, 1),
    ("provider_transport_retry_min_seconds", 0.5, 5, 0.5),
    ("provider_transport_retry_max_seconds", 60, 600, 30),
    ("execution_lease_min_seconds", 300, 3600, 150),
    ("execution_lease_heartbeat_max_seconds", 10, 90, 5),
    ("default_port_probe_timeout_seconds", 0.2, 5, 0.2),
    ("daemon_project_event_concurrency", 1, 16, 1),
    ("max_git_status_prompt_chars", 1000, 20000, 1000),
    ("max_log_read_bytes", 64000, 2000000, 64000), ("max_log_prompt_chars", 20000, 300000, 20000),
    ("provider_error_max_chars", 200, 3000, 100), ("skill_file_max_bytes", 50000, 1000000, 50000),
    ("search_title_max_chars", 100, 800, 50), ("search_snippet_max_chars", 300, 3000, 150),
    ("search_response_max_bytes", 500000, 8000000, 500000),
    ("search_x_response_max_bytes", 1000000, 16000000, 1000000),
    ("connector_idle_timeout_seconds", 30, 600, 30),
    ("connector_heartbeat_interval_seconds", 5, 60, 5),
    ("telegram_get_file_timeout_seconds", 5, 60, 5),
    ("telegram_download_timeout_seconds", 15, 300, 15),
    ("weixin_config_timeout_seconds", 2, 30, 2),
    ("weixin_context_token_max_age_seconds", 3600, 259200, 3600),
    ("weixin_ingress_stale_after_seconds", 30, 600, 30)]

/-- `MEMORY_PARAMETER_SET`, by its prefixes and exact names. -/
def isMemoryParameter (name : String) : Bool :=
  (systemDynamicParameters.map Prod.fst).contains name
    && (["cue_", "tf_", "decay_", "ltp_", "recall_", "memory_", "consolidation_", "graph_",
          "context_"].any (fun p => p.toList.isPrefixOf name.toList)
        || ["temporal_discount_factor", "confidence_reduction_delta", "hebbian_learning_rate",
          "credit_assignment_learning_rate", "planner_memory_item_max_chars"].contains name)
    && name ≠ "memory_regression_gate_threshold"

/-- The entry of a parameter in the table of bounds. -/
def explorationBounds? (name : String) : Option (Rat × Rat × Rat) :=
  parameterExplorationBounds.lookup name

/-- `_get_parameter_bounds`. -/
def getParameterBounds (name : String) (current : Rat) : Rat × Rat × Rat :=
  match explorationBounds? name with
  | some entry => entry
  | none =>
      let step := roundTo 4 (max (1 / 100) (|current| * (1 / 10)))
      (roundTo 4 (min (current - step) (current * (1 / 2))),
        roundTo 4 (max (current + step) (current * 2)), step)

/-- The registry of the shipped defaults, with exact numbers. -/
def systemEngine : RegistryEngine where
  defaults := systemDynamicParameters
  toFloat
    | .float x => some x
    | _ => none
  toFloat_float _ := rfl
  toInt
    | .int n => some n
    | _ => none
  toInt_int _ := rfl
  rounded := roundTo

end Navi.SelfPlay
